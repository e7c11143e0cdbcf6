/-
# Transmitter, carrier and ONU-ID against the state

The side effects of `ploam_state_transition` belong to the states it enters; O4 has none
of its own and relies on the way it is reached. `Chart.Consistent` is what every state
should show. It holds along a run exactly while no Assign_ONU-ID for this ONU is handled
where the transmitter is off or the carrier up, and, if the transmitter has no callback,
no Upstream_Overhead starts the serial number state (`transceiver_consistent_iff`).
-/

import FalconGpon.Ploam.Chart

namespace FalconGpon.Ploam

open FalconGpon.Lib
open FalconPloamCtx

namespace PloamState

/-- The states in which the ONU transmits. -/
def transmits : PloamState → Bool
  | .o3SerialNum => true
  | .o4Ranging => true
  | .o5Operation => true
  | _ => false

/-- The states in which the carrier may be up. -/
def carries : PloamState → Bool
  | .o5Operation => true
  | .o6Popup => true
  | _ => false

/-- The states without an ONU-ID. -/
def unassigned : PloamState → Bool
  | .o1InitialRun => true
  | .o2Standby => true
  | _ => false

end PloamState

namespace FalconPloamCtx.Chart

/-- Transmitter, carrier and ONU-ID agree with the state. -/
@[mk_iff]
structure Consistent (chart : Chart) : Prop where
  laser : chart.laser = chart.state.transmits
  carrier : chart.carrier = true → chart.state.carries = true
  onuId : chart.state.unassigned = true → chart.onuId = 0

instance (chart : Chart) : Decidable chart.Consistent :=
  decidable_of_iff _ (consistent_iff chart).symm

/-- What holds of every run: only set callbacks have an effect, and with one the carrier
is up in O5 and O6. -/
@[mk_iff]
structure Wired (chart : Chart) : Prop where
  laser : chart.laser = true → chart.callbacks.laserSetEnable = true
  carrier : chart.carrier = true → chart.callbacks.carrierSet = true
  carries : chart.callbacks.carrierSet = true → chart.state.carries = true → chart.carrier = true

/-- The moves the state chart makes on conditions. -/
@[mk_iff]
structure Possible (chart : Chart) (newState : PloamState) : Prop where
  serialNum : newState = .o3SerialNum → chart.state.unassigned = true
  operation : newState = .o5Operation → chart.state = .o4Ranging ∨ chart.state = .o5Operation
  popup : newState = .o6Popup → chart.state = .o5Operation

/-- A move that leaves transmitter or carrier in disagreement with the new state. -/
def Spoils (chart : Chart) (newState : PloamState) : Prop :=
  newState = .o3SerialNum ∧ chart.callbacks.laserSetEnable = false ∨
    newState = .o4Ranging ∧ (chart.state.transmits = false ∨
      chart.state = .o5Operation ∧ chart.callbacks.carrierSet = true)

open PloamState

variable {newState : PloamState}

theorem not_spoils_of_ne {chart : Chart}
    (hserial : newState ≠ .o3SerialNum) (hranging : newState ≠ .o4Ranging) :
    ¬ chart.Spoils newState := by
  rintro (⟨hstate, _⟩ | ⟨hstate, _⟩)
  · exact hserial hstate
  · exact hranging hstate

/-- From a consistent chart a possible move leads to one exactly if it does not spoil it:
the table of all pairs of states, with either callback set or not. -/
theorem consistent_moveTo {before : Chart} (hwired : before.Wired)
    (hconsistent : before.Consistent) (hpossible : before.Possible newState) :
    (before.moveTo newState).Consistent ↔ ¬ before.Spoils newState := by
  obtain ⟨state, laser, carrier, onuId, laserSetEnable, carrierSet, stateChangeCb⟩ := before
  rw [wired_iff] at hwired
  rw [consistent_iff] at hconsistent
  rw [possible_iff] at hpossible
  by_cases hstays : state = newState
  · rw [moveTo, if_pos hstays]
    cases newState <;> simp_all [consistent_iff, Spoils, transmits, unassigned]
  · rw [moveTo, if_neg hstays]
    cases newState with
    | o3SerialNum =>
        cases state <;> cases laserSetEnable <;>
          simp_all [consistent_iff, enter, setLaser, Spoils, transmits, carries, unassigned]
    | o4Ranging =>
        cases state <;> cases carrierSet <;>
          simp_all [consistent_iff, enter, Spoils, transmits, carries, unassigned]
    | _ =>
        cases laserSetEnable <;> cases carrierSet <;>
          simp_all [consistent_iff, enter, setLaser, setCarrier, Spoils, transmits, carries,
            unassigned]

theorem Wired.moveTo {before : Chart} (hwired : before.Wired)
    (hpossible : before.Possible newState) : (before.moveTo newState).Wired := by
  obtain ⟨state, laser, carrier, onuId, laserSetEnable, carrierSet, stateChangeCb⟩ := before
  rw [wired_iff] at hwired ⊢
  rw [possible_iff] at hpossible
  by_cases hstays : state = newState
  · rwa [Chart.moveTo, if_pos hstays]
  · rw [Chart.moveTo, if_neg hstays]
    cases newState <;> cases laserSetEnable <;> cases carrierSet <;>
      simp_all [enter, setLaser, setCarrier, PloamState.carries]

theorem consistent_moveTo_onuId {before : Chart} {onuId : U8}
    (honuId : newState ≠ .o4Ranging → onuId = before.onuId) :
    ({ before with onuId }.moveTo newState).Consistent ↔ (before.moveTo newState).Consistent := by
  by_cases hranging : newState = .o4Ranging
  · subst hranging
    simp only [consistent_iff, Chart.moveTo]
    split <;> simp_all [enter, unassigned]
  · obtain rfl := honuId hranging
    exact Iff.rfl

end FalconPloamCtx.Chart

open FalconPloamCtx.Chart

/-- The chart makes possible moves only. -/
theorem target_possible {ctx : FalconPloamCtx} {event : PloamEvent} {newState : PloamState}
    (h : ctx.target event = some newState) : ctx.chart.Possible newState := by
  cases event with
  | rxIrq arrived => cases h
  | work =>
      obtain ⟨msg, _, hmove⟩ := Option.bind_eq_some_iff.mp h
      cases msgTarget_eq_some_iff.mp hmove with
      | overhead hid hstate =>
          refine ⟨fun _ => ?_, by simp, by simp⟩
          rcases hstate with hstate | hstate <;> simp [chart, hstate, PloamState.unassigned]
      | assign hid hown | deactivate hid | disable hid => exact ⟨by simp, by simp, by simp⟩
      | ranging hid hstate => exact ⟨by simp, fun _ => hstate, by simp⟩
  | to1Expiry | to2Expiry =>
      obtain rfl := Option.some.inj h
      exact ⟨by simp, by simp, by simp⟩
  | los los =>
      cases los with
      | false => cases h
      | true =>
          obtain rfl := Option.some.inj h
          exact ⟨by simp, by simp, by simp⟩
  | lof lof =>
      simp only [target] at h
      split at h
      · split at h
        · rename_i hoperation
          obtain rfl := Option.some.inj h
          exact ⟨by simp, by simp, fun _ => hoperation⟩
        · obtain rfl := Option.some.inj h
          exact ⟨by simp, by simp, by simp⟩
      · split at h
        · obtain rfl := Option.some.inj h
          exact ⟨by simp, by simp, by simp⟩
        · cases h

namespace FalconPloamCtx

/-- The worker handles a message that sets transmitter or carrier at odds with the state:
an Assign_ONU-ID for this ONU outside O3 and O4 (in O5 if the carrier can be reported), or
the Upstream_Overhead that starts O3 without a transmitter callback. -/
def SpoilsLine (ctx : FalconPloamCtx) (event : PloamEvent) : Prop :=
  event = .work ∧ ∃ msg ∈ ctx.nextMsg,
    msg.msgId = dsAssignOnuId ∧ ctx.ownSerialNumber msg ∧
        (ctx.state.transmits = false ∨
          ctx.state = .o5Operation ∧ ctx.callbacks.carrierSet = true) ∨
      msg.msgId = dsUpstreamOverhead ∧ ctx.state.unassigned = true ∧
        ctx.callbacks.laserSetEnable = false

end FalconPloamCtx

/-- These are the events whose move spoils the chart. -/
theorem spoilsLine_iff {ctx : FalconPloamCtx} {event : PloamEvent} :
    ctx.SpoilsLine event ↔ ∃ newState ∈ ctx.target event, ctx.chart.Spoils newState := by
  constructor
  · rintro ⟨rfl, msg, hmsg, ⟨hid, hown, hline⟩ | ⟨hid, hstate, hunset⟩⟩
    · have hmove := msgTarget_eq_some_iff.mpr (MsgMove.assign hid hown)
      exact ⟨.o4Ranging, Option.bind_eq_some_iff.mpr ⟨msg, hmsg, hmove⟩, .inr ⟨rfl, hline⟩⟩
    · have hstart : ctx.state = .o1InitialRun ∨ ctx.state = .o2Standby := by
        cases hcase : ctx.state <;> simp_all [PloamState.unassigned]
      have hmove := msgTarget_eq_some_iff.mpr (MsgMove.overhead hid hstart)
      exact ⟨.o3SerialNum, Option.bind_eq_some_iff.mpr ⟨msg, hmsg, hmove⟩, .inl ⟨rfl, hunset⟩⟩
  · rintro ⟨newState, htarget, hspoils⟩
    cases event with
    | work =>
        obtain ⟨msg, hmsg, hmove⟩ := Option.bind_eq_some_iff.mp htarget
        refine ⟨rfl, msg, hmsg, ?_⟩
        rcases hspoils with ⟨rfl, hunset⟩ | ⟨rfl, hline⟩
        · have hstart := (target_possible htarget).serialNum rfl
          cases msgTarget_eq_some_iff.mp hmove with
          | overhead hid hstate => exact .inr ⟨hid, hstart, hunset⟩
        · cases msgTarget_eq_some_iff.mp hmove with
          | assign hid hown => exact .inl ⟨hid, hown, hline⟩
    | rxIrq arrived => cases htarget
    | to1Expiry | to2Expiry =>
        obtain rfl := Option.some.inj htarget
        exact absurd hspoils (not_spoils_of_ne nofun nofun)
    | los los =>
        cases los with
        | false => cases htarget
        | true =>
            obtain rfl := Option.some.inj htarget
            exact absurd hspoils (not_spoils_of_ne nofun nofun)
    | lof lof =>
        have hother : newState ≠ .o3SerialNum ∧ newState ≠ .o4Ranging := by
          simp only [target, Option.mem_def] at htarget
          split at htarget <;> split at htarget <;> simp_all <;> subst htarget <;> simp
        exact absurd hspoils (not_spoils_of_ne hother.1 hother.2)

/-- One step from a consistent chart. -/
theorem consistent_ploamStep {ctx after : FalconPloamCtx} {event : PloamEvent}
    (hwired : ctx.chart.Wired) (hconsistent : ctx.chart.Consistent)
    (h : ploamStep ctx event = some after) : after.chart.Consistent ↔ ¬ ctx.SpoilsLine event := by
  have hmoved := ploamStep_moved h
  rw [spoilsLine_iff]
  cases htarget : ctx.target event with
  | none =>
      rw [htarget] at hmoved
      generalize after.chart = moved at hmoved ⊢
      cases hmoved with
      | stay => simpa using hconsistent
  | some newState =>
      rw [htarget] at hmoved
      generalize after.chart = moved at hmoved ⊢
      cases hmoved with
      | move _ onuId honuId =>
          rw [consistent_moveTo_onuId honuId,
            consistent_moveTo hwired hconsistent (target_possible htarget)]
          simp

theorem wired_ploamStep {ctx after : FalconPloamCtx} {event : PloamEvent}
    (hwired : ctx.chart.Wired) (h : ploamStep ctx event = some after) : after.chart.Wired := by
  have hmoved := ploamStep_moved h
  cases htarget : ctx.target event with
  | none =>
      rw [htarget] at hmoved
      generalize after.chart = moved at hmoved ⊢
      cases hmoved with
      | stay => exact hwired
  | some newState =>
      rw [htarget] at hmoved
      generalize after.chart = moved at hmoved ⊢
      cases hmoved with
      | move _ onuId _ =>
          have hwired' : ({ ctx.chart with onuId } : Chart).Wired :=
            ⟨hwired.laser, hwired.carrier, hwired.carries⟩
          have hpossible := target_possible htarget
          exact hwired'.moveTo ⟨hpossible.serialNum, hpossible.operation, hpossible.popup⟩

/-- The context after `falcon_ploam_init`, with these callbacks set in it. -/
def startCtx (callbacks : Callbacks) (sn : Option (Vector U8 8)) (pwd : Option (Vector U8 10)) :
    FalconPloamCtx :=
  { falconPloamInit probedCtx sn pwd with callbacks }

/-- In a run of the state machine transmitter, carrier and ONU-ID agree with the state in
every state reached if and only if the run handles none of the messages that spoil it. -/
theorem transceiver_consistent_iff (callbacks : Callbacks) (sn : Option (Vector U8 8))
    (pwd : Option (Vector U8 10)) (events : List PloamEvent) :
    Along ploamStep (fun _ _ after => after.chart.Consistent) (startCtx callbacks sn pwd) events ↔
      Along ploamStep (fun before event _ => ¬ before.SpoilsLine event)
        (startCtx callbacks sn pwd) events := by
  have hwired : (startCtx callbacks sn pwd).chart.Wired := ⟨nofun, nofun, nofun⟩
  have hconsistent : (startCtx callbacks sn pwd).chart.Consistent := ⟨rfl, nofun, fun _ => rfl⟩
  -- the wiring holds whatever happens, so that it may be added to the invariant
  have hadd := @along_congr _ _ ploamStep (fun ctx => ctx.chart.Wired)
    (fun _ _ after => after.chart.Consistent)
    (fun _ _ after => after.chart.Wired ∧ after.chart.Consistent)
    (fun before event after hbefore h => wired_ploamStep hbefore h)
    (fun before event after hbefore h => by simp [wired_ploamStep hbefore h])
    _ hwired events
  rw [hadd]
  refine along_inv_iff ?_ ⟨hwired, hconsistent⟩ events
  rintro before event after ⟨hbefore, hagree⟩ h
  rw [← consistent_ploamStep hbefore hagree h]
  exact and_iff_right (wired_ploamStep hbefore h)

/-- Upstream_Overhead, then the ONU-ID 1 for the default serial number. -/
def rangingMsgs : List PloamWords :=
  [PloamMsg.words { PloamMsg.zero with onuId := broadcastOnuId, msgId := dsUpstreamOverhead },
    PloamMsg.words { PloamMsg.zero with
      onuId := broadcastOnuId, msgId := dsAssignOnuId, payload := defaultSerialNumber.push 1 }]

/-- As `falcon_gpon_probe` leaves it, the driver stays dark in O3; with all callbacks set
it ranges in the dark after an Assign_ONU-ID in O1. -/
theorem transceiver_not_consistent :
    (¬ ∀ events, Along ploamStep (fun _ _ after => after.chart.Consistent)
        (falconPloamInit probedCtx none none) events) ∧
      ¬ ∀ events, Along ploamStep (fun _ _ after => after.chart.Consistent)
        (startCtx probedCtx.callbacks none none) events := by
  constructor
  · intro hall
    have hrun := hall [.rxIrq rangingMsgs, .work]
    revert hrun
    decide +kernel
  · intro hall
    have hrun := hall [.rxIrq rangingMsgs.tail, .work]
    revert hrun
    decide +kernel

end FalconGpon.Ploam
