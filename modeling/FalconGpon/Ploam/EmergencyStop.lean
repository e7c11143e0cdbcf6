/-
# Leaving the emergency stop

Only Disable_Serial_Number leads into O7, and no such message leads out of it: the octet
that tells enabling from disabling is never read. What does lead out are the messages,
timers and alarms whose handlers do not look at the state (`FalconPloamCtx.Disturbs`).
-/

import FalconGpon.Ploam.Chart

namespace FalconGpon.Ploam

open FalconGpon.Lib

namespace FalconPloamCtx

/-- The message is a Disable_Serial_Number that lets this ONU take part again: octet 0
is zero and the serial number its own, or octet 0 addresses all stopped ONUs. -/
def EnablesAgain (ctx : FalconPloamCtx) (msg : PloamMsg) : Prop :=
  msg.msgId = dsDisableSerialNum ∧
    (msg.payload.get 0 = 0x0F ∨ msg.payload.get 0 = 0x00 ∧ msg.payload.tail = ctx.serialNumber)

instance (ctx : FalconPloamCtx) (msg : PloamMsg) : Decidable (ctx.EnablesAgain msg) :=
  inferInstanceAs (Decidable (_ ∧ _))

def StopKept (before : FalconPloamCtx) (event : PloamEvent) (after : FalconPloamCtx) : Prop :=
  before.state = .o7Emergency → after.state ≠ .o7Emergency →
    event = .work ∧ ∃ msg ∈ before.nextMsg, before.EnablesAgain msg

instance (before : FalconPloamCtx) (event : PloamEvent) (after : FalconPloamCtx) :
    Decidable (before.StopKept event after) :=
  inferInstanceAs (Decidable (_ → _))

/-- The events that move the context out of O7. -/
def Disturbs (ctx : FalconPloamCtx) : PloamEvent → Prop
  | .rxIrq _ => False
  | .work => ∃ msg ∈ ctx.nextMsg,
      msg.msgId = dsAssignOnuId ∧ ctx.ownSerialNumber msg ∨ msg.msgId = dsDeactivateOnuId
  | .to1Expiry => True
  | .to2Expiry => True
  | .los los => los
  | .lof lof => lof

end FalconPloamCtx

open FalconPloamCtx

/-- In O7 a message leads elsewhere only through Assign_ONU-ID and Deactivate_ONU-ID. -/
theorem msgTarget_of_emergency {ctx : FalconPloamCtx} (hstate : ctx.state = .o7Emergency)
    (msg : PloamMsg) : (ctx.msgTarget msg).getD .o7Emergency ≠ .o7Emergency ↔
      msg.msgId = dsAssignOnuId ∧ ctx.ownSerialNumber msg ∨ msg.msgId = dsDeactivateOnuId := by
  constructor
  · intro hne
    cases htarget : ctx.msgTarget msg with
    | none => simp [htarget] at hne
    | some newState =>
        cases msgTarget_eq_some_iff.mp htarget with
        | overhead hid hstart => simp [hstate] at hstart
        | assign hid hown => exact .inl ⟨hid, hown⟩
        | ranging hid hstart => simp [hstate] at hstart
        | deactivate hid => exact .inr hid
        | disable hid => simp [htarget] at hne
  · rintro (⟨hid, hown⟩ | hid)
    · simp [msgTarget_eq_some_iff.mpr (MsgMove.assign hid hown)]
    · have hmove : ctx.MsgMove msg .o2Standby := .deactivate hid
      simp [msgTarget_eq_some_iff.mpr hmove]

/-- In O7 a step leads elsewhere exactly for the events that disturb the stop. -/
theorem state_ne_emergency_iff {ctx after : FalconPloamCtx} {event : PloamEvent}
    (hstate : ctx.state = .o7Emergency) (h : ploamStep ctx event = some after) :
    after.state ≠ .o7Emergency ↔ ctx.Disturbs event := by
  rw [ploamStep_state h, hstate]
  cases event with
  | rxIrq arrived => simp [target, Disturbs]
  | work =>
      cases hmsg : ctx.nextMsg with
      | none => simp [target, Disturbs, hmsg]
      | some msg =>
          have hiff := msgTarget_of_emergency hstate msg
          simpa [target, Disturbs, hmsg] using hiff
  | to1Expiry => simp [target, Disturbs]
  | to2Expiry => simp [target, Disturbs]
  | los los => cases los <;> simp [target, Disturbs]
  | lof lof => cases lof <;> simp [target, Disturbs, hstate]

theorem not_disturbs_of_enablesAgain {ctx : FalconPloamCtx} {msg : PloamMsg}
    (hmsg : msg ∈ ctx.nextMsg) (henables : ctx.EnablesAgain msg) : ¬ ctx.Disturbs .work := by
  rintro ⟨other, hother, hdisturbs⟩
  obtain rfl : msg = other := Option.some.inj (hmsg.symm.trans hother)
  rcases hdisturbs with ⟨hid, _⟩ | hid
  · rw [henables.1] at hid
    cases hid
  · rw [henables.1] at hid
    cases hid

theorem stopKept_iff {before after : FalconPloamCtx} {event : PloamEvent}
    (h : ploamStep before event = some after) :
    before.StopKept event after ↔ (before.state = .o7Emergency → ¬ before.Disturbs event) := by
  constructor
  · intro hkept hstate hdisturbs
    have hleft := (state_ne_emergency_iff hstate h).mpr hdisturbs
    obtain ⟨rfl, msg, hmsg, henables⟩ := hkept hstate hleft
    exact not_disturbs_of_enablesAgain hmsg henables hdisturbs
  · intro hquiet hstate hleft
    exact absurd ((state_ne_emergency_iff hstate h).mp hleft) (hquiet hstate)

/-- In a run of the state machine O7 is left only to be enabled again if and only if no
event of the run that finds the machine in O7 is one of those that disturb the stop. -/
theorem emergencyStop_kept_iff (ctx : FalconPloamCtx) (sn : Option (Vector U8 8))
    (pwd : Option (Vector U8 10)) (events : List PloamEvent) :
    Along ploamStep StopKept (falconPloamInit ctx sn pwd) events ↔
      Along ploamStep (fun before event _ => before.state = .o7Emergency → ¬ before.Disturbs event)
        (falconPloamInit ctx sn pwd) events := by
  apply @along_congr _ _ ploamStep (fun _ => True)
  · intro _ _ _ _ _
    trivial
  · intro before event after _ h
    exact stopKept_iff h
  · trivial

def stopMsgs : List PloamWords :=
  [PloamMsg.words { PloamMsg.zero with onuId := broadcastOnuId, msgId := dsUpstreamOverhead },
    PloamMsg.words { PloamMsg.zero with onuId := broadcastOnuId, msgId := dsDisableSerialNum }]

/-- The serial number timer that O3 has started runs on in O7 and ends the stop. -/
theorem emergencyStop_not_kept :
    ¬ ∀ events, Along ploamStep StopKept (falconPloamInit probedCtx none none) events := by
  intro hall
  have hrun := hall [.rxIrq stopMsgs, .work, .work, .to1Expiry]
  revert hrun
  decide +kernel

end FalconGpon.Ploam
