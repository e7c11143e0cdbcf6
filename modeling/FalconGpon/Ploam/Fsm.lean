/-
# The PLOAM state machine

`falcon_ploam.c`: the context, the receive interrupt, the worker that handles the queued
messages, the two timers and the signal events. The registers behind `gtc_base` and what
the callbacks drive are parts of the model's state. A step of the system is one
interrupt, one round of the worker, one timer expiry or one signal event; any order of
them is a run.
-/

import FalconGpon.Ploam.Message
import FalconGpon.Lib.Ring
import FalconGpon.Lib.Transition

namespace FalconGpon.Ploam

open FalconGpon.Lib

/-- `enum gpon_ploam_state`. -/
inductive PloamState
  | o1InitialRun
  | o2Standby
  | o3SerialNum
  | o4Ranging
  | o5Operation
  | o6Popup
  | o7Emergency
deriving DecidableEq, Repr

/-- `struct gpon_us_overhead`, as far as it is written. -/
structure GponUsOverhead where
  preambleLen : U8
  delimiterLen : U8
  powerLevelMode : U8
deriving DecidableEq

/-- The registers behind `gtc_base`. -/
structure GtcRegs where
  /-- Messages in the downstream FIFO, the next one to read first. -/
  dsFifo : List PloamWords
  /-- Messages given to the upstream FIFO so far. -/
  usFifo : List PloamWords
  onuId : U32
  rangedDelay : U32
  delayCtrl : U32

/-- Which of the callback pointers of the context are set. -/
structure Callbacks where
  laserSetEnable : Bool
  carrierSet : Bool
  stateChangeCb : Bool
deriving DecidableEq

/-- What the callbacks drive. -/
structure Line where
  /-- The burst transmitter is enabled. -/
  laser : Bool
  /-- The network carrier is reported up. -/
  carrier : Bool
  /-- State changes reported so far, new state first. -/
  stateChanges : List (PloamState × PloamState)

/-- `struct falcon_ploam_ctx`, with the hardware it points to. -/
structure FalconPloamCtx where
  gtc : GtcRegs
  state : PloamState
  assignedOnuId : U8
  serialNumber : Vector U8 8
  password : Vector U8 10
  eqd : U32
  overhead : GponUsOverhead
  rxQueue : Ring 64 PloamMsg
  /-- `to1_timer` is scheduled. -/
  to1Timer : Bool
  /-- `to2_timer` is scheduled. -/
  to2Timer : Bool
  callbacks : Callbacks
  line : Line

namespace FalconPloamCtx

/-! Hardware access. -/

/-- `gtc_ploam_send`. -/
def gtcPloamSend (ctx : FalconPloamCtx) (msg : PloamMsg) : FalconPloamCtx :=
  { ctx with gtc := { ctx.gtc with usFifo := ctx.gtc.usFifo ++ [msg.words] } }

/-- Call `laser_set_enable`, if it is set. -/
def laserSetEnable (ctx : FalconPloamCtx) (enable : Bool) : FalconPloamCtx :=
  if ctx.callbacks.laserSetEnable then { ctx with line := { ctx.line with laser := enable } }
  else ctx

/-- Call `carrier_set`, if it is set. -/
def carrierSet (ctx : FalconPloamCtx) (linkUp : Bool) : FalconPloamCtx :=
  if ctx.callbacks.carrierSet then { ctx with line := { ctx.line with carrier := linkUp } }
  else ctx

/-- Call `state_change_cb`, if it is set. -/
def stateChangeCb (ctx : FalconPloamCtx) (newState oldState : PloamState) : FalconPloamCtx :=
  if ctx.callbacks.stateChangeCb then
    { ctx with line :=
        { ctx.line with stateChanges := (newState, oldState) :: ctx.line.stateChanges } }
  else ctx

def setOnuId (ctx : FalconPloamCtx) (onuId : U8) : FalconPloamCtx :=
  { ctx with assignedOnuId := onuId, gtc := { ctx.gtc with onuId := onuId.setWidth 32 } }

/-! State transitions. -/

/-- What `ploam_state_transition` does on entering a state. -/
def enter (ctx : FalconPloamCtx) : PloamState → FalconPloamCtx
  | .o1InitialRun => ((ctx.laserSetEnable false).carrierSet false).setOnuId 0
  | .o2Standby => ((ctx.laserSetEnable false).carrierSet false).setOnuId 0
  | .o3SerialNum => { ctx.laserSetEnable true with to1Timer := true }
  | .o4Ranging => { ctx with to1Timer := false }
  | .o5Operation => { ctx with to1Timer := false, to2Timer := false }.carrierSet true
  | .o6Popup => { ctx.laserSetEnable false with to2Timer := true }
  | .o7Emergency => (ctx.laserSetEnable false).carrierSet false

/-- `ploam_state_transition`. -/
def ploamStateTransition (ctx : FalconPloamCtx) (newState : PloamState) : FalconPloamCtx :=
  if ctx.state = newState then ctx
  else ({ ctx with state := newState }.stateChangeCb newState ctx.state).enter newState

/-! Upstream messages. -/

/-- `send_ack`. -/
def sendAck (ctx : FalconPloamCtx) (seqNum : U8) : FalconPloamCtx :=
  ctx.gtcPloamSend
    { onuId := ctx.assignedOnuId, msgId := usAcknowledge, seqNum, payload := Vector.replicate 9 0 }

/-- `send_serial_number_onu`. -/
def sendSerialNumberOnu (ctx : FalconPloamCtx) : FalconPloamCtx :=
  ctx.gtcPloamSend
    { onuId := broadcastOnuId, msgId := usSerialNumberOnu, seqNum := 1,
      payload := ctx.serialNumber.push 0 }

/-- `send_password`: only nine of the ten octets fit. -/
def sendPassword (ctx : FalconPloamCtx) (seqNum : U8) : FalconPloamCtx :=
  ctx.gtcPloamSend
    { onuId := ctx.assignedOnuId, msgId := usPassword, seqNum, payload := ctx.password.pop }

/-! The worker. -/

def ownSerialNumber (ctx : FalconPloamCtx) (msg : PloamMsg) : Prop :=
  msg.payload.pop = ctx.serialNumber

instance (ctx : FalconPloamCtx) (msg : PloamMsg) : Decidable (ctx.ownSerialNumber msg) :=
  inferInstanceAs (Decidable (_ = _))

/-- The case `PLOAM_DS_UPSTREAM_OVERHEAD`. -/
def upstreamOverhead (ctx : FalconPloamCtx) (msg : PloamMsg) : FalconPloamCtx :=
  let ctx := { ctx with overhead :=
    { preambleLen := msg.payload[0], delimiterLen := msg.payload[1],
      powerLevelMode := msg.payload[8] } }
  if ctx.state = .o1InitialRun ∨ ctx.state = .o2Standby then
    (ctx.ploamStateTransition .o3SerialNum).sendSerialNumberOnu
  else ctx

/-- The case `PLOAM_DS_ASSIGN_ONU_ID`. -/
def assignOnuId (ctx : FalconPloamCtx) (msg : PloamMsg) : FalconPloamCtx :=
  if ctx.ownSerialNumber msg then
    ((ctx.setOnuId msg.payload[8]).sendAck msg.seqNum).ploamStateTransition .o4Ranging
  else ctx

/-- `GTC_DELAY_CTRL_EN`. -/
def gtcDelayCtrlEn : U32 := 1#32 <<< 28

def setEqd (ctx : FalconPloamCtx) (eqd : U32) : FalconPloamCtx :=
  { ctx with eqd, gtc :=
    { ctx.gtc with rangedDelay := eqd, delayCtrl := ctx.gtc.delayCtrl ||| gtcDelayCtrlEn } }

/-- The case `PLOAM_DS_RANGING_TIME`. -/
def rangingTime (ctx : FalconPloamCtx) (msg : PloamMsg) : FalconPloamCtx :=
  if ctx.state = .o4Ranging ∨ ctx.state = .o5Operation then
    let eqd := word msg.payload[0] msg.payload[1] msg.payload[2] msg.payload[3]
    ((ctx.setEqd eqd).sendAck msg.seqNum).ploamStateTransition .o5Operation
  else ctx

/-- The switch of `falcon_ploam_fsm_worker`. -/
def handleMsg (ctx : FalconPloamCtx) (msg : PloamMsg) : FalconPloamCtx :=
  if msg.msgId = dsUpstreamOverhead then ctx.upstreamOverhead msg
  else if msg.msgId = dsAssignOnuId then ctx.assignOnuId msg
  else if msg.msgId = dsRangingTime then ctx.rangingTime msg
  else if msg.msgId = dsRequestPassword then ctx.sendPassword msg.seqNum
  else if msg.msgId = dsDeactivateOnuId then ctx.ploamStateTransition .o2Standby
  else if msg.msgId = dsDisableSerialNum then ctx.ploamStateTransition .o7Emergency
  else ctx

/-- One round of `falcon_ploam_fsm_worker`; `none` where its loop ends. -/
def falconPloamFsmWorker (ctx : FalconPloamCtx) : Option FalconPloamCtx :=
  match ctx.rxQueue.pop with
  | none => none
  | some (msg, rest) => some ({ ctx with rxQueue := rest }.handleMsg msg)

/-! Timers and signal events. -/

/-- `to1_timer_fn`. -/
def to1TimerFn (ctx : FalconPloamCtx) : FalconPloamCtx := ctx.ploamStateTransition .o2Standby

/-- `to2_timer_fn`. -/
def to2TimerFn (ctx : FalconPloamCtx) : FalconPloamCtx := ctx.ploamStateTransition .o1InitialRun

/-- `falcon_ploam_event_los`. -/
def falconPloamEventLos (ctx : FalconPloamCtx) (los : Bool) : FalconPloamCtx :=
  if los then ctx.ploamStateTransition .o1InitialRun else ctx

/-- `falcon_ploam_event_lof`. -/
def falconPloamEventLof (ctx : FalconPloamCtx) (lof : Bool) : FalconPloamCtx :=
  if lof then
    if ctx.state = .o5Operation then ctx.ploamStateTransition .o6Popup
    else ctx.ploamStateTransition .o1InitialRun
  else
    if ctx.state = .o1InitialRun then ctx.ploamStateTransition .o2Standby else ctx

end FalconPloamCtx

/-! The receive interrupt. -/

/-- The filter of `gtc_ploam_rd` lets the message through. -/
def PloamMsg.Passes (assignedOnuId : U8) (msg : PloamMsg) : Prop :=
  ¬ (msg.onuId ≠ broadcastOnuId ∧ msg.onuId ≠ assignedOnuId ∧ assignedOnuId ≠ 0)

instance (assignedOnuId : U8) : DecidablePred (PloamMsg.Passes assignedOnuId) :=
  fun _ => inferInstanceAs (Decidable (¬ _))

/-- `gtc_ploam_rd`: the message it returns, if it returns true, and what is left in the
FIFO. A message that is filtered out has been read all the same. -/
def gtcPloamRd (assignedOnuId : U8) : List PloamWords → Option PloamMsg × List PloamWords
  | [] => (none, [])
  | words :: fifo =>
      if words.msg.Passes assignedOnuId then (some words.msg, fifo) else (none, fifo)

/-- The loop of `falcon_ploam_rx_irq_handler`. -/
def rxLoop (assignedOnuId : U8) :
    List PloamWords → Ring 64 PloamMsg → List PloamWords × Ring 64 PloamMsg
  | [], rxQueue => ([], rxQueue)
  | words :: fifo, rxQueue =>
      match gtcPloamRd assignedOnuId (words :: fifo) with
      | (some msg, _) => rxLoop assignedOnuId fifo (rxQueue.push msg)
      | (none, rest) => (rest, rxQueue)

/-- `falcon_ploam_rx_irq_handler`. -/
def FalconPloamCtx.falconPloamRxIrqHandler (ctx : FalconPloamCtx) : FalconPloamCtx :=
  let (dsFifo, rxQueue) := rxLoop ctx.assignedOnuId ctx.gtc.dsFifo ctx.rxQueue
  { ctx with gtc := { ctx.gtc with dsFifo }, rxQueue }

/-! The system. -/

def defaultSerialNumber : Vector U8 8 := #v[0x5A, 0x59, 0x58, 0x45, 0x12, 0x34, 0x56, 0x78]

def PloamMsg.zero : PloamMsg :=
  { onuId := 0, msgId := 0, seqNum := 0, payload := Vector.replicate 9 0 }

/-- `falcon_ploam_init`. It clears the whole context first, the callbacks included. -/
def falconPloamInit (ctx : FalconPloamCtx) (sn : Option (Vector U8 8))
    (pwd : Option (Vector U8 10)) : FalconPloamCtx where
  gtc := ctx.gtc
  state := .o1InitialRun
  assignedOnuId := 0
  serialNumber := sn.getD defaultSerialNumber
  password := pwd.getD (Vector.replicate 10 0)
  eqd := 0
  overhead := { preambleLen := 0, delimiterLen := 0, powerLevelMode := 0 }
  rxQueue := { slots := fun _ => PloamMsg.zero, head := 0, tail := 0 }
  to1Timer := false
  to2Timer := false
  callbacks := { laserSetEnable := false, carrierSet := false, stateChangeCb := false }
  line := ctx.line

/-- Zeroed memory, all callbacks set, an idle FIFO and a dark transmitter: what
`falcon_gpon_probe` passes to `falcon_ploam_init`. -/
def probedCtx : FalconPloamCtx where
  gtc := { dsFifo := [], usFifo := [], onuId := 0, rangedDelay := 0, delayCtrl := 0 }
  state := .o1InitialRun
  assignedOnuId := 0
  serialNumber := Vector.replicate 8 0
  password := Vector.replicate 10 0
  eqd := 0
  overhead := { preambleLen := 0, delimiterLen := 0, powerLevelMode := 0 }
  rxQueue := { slots := fun _ => PloamMsg.zero, head := 0, tail := 0 }
  to1Timer := false
  to2Timer := false
  callbacks := { laserSetEnable := true, carrierSet := true, stateChangeCb := true }
  line := { laser := false, carrier := false, stateChanges := [] }

/-- What can happen to the context. -/
inductive PloamEvent
  /-- The receive interrupt, with what has arrived in the FIFO since the last one. -/
  | rxIrq (arrived : List PloamWords)
  /-- One round of the worker. -/
  | work
  | to1Expiry
  | to2Expiry
  | los (los : Bool)
  | lof (lof : Bool)
deriving DecidableEq

/-- One step. The worker has something to do while the ring shows an entry, and only a
scheduled timer expires. -/
def ploamStep (ctx : FalconPloamCtx) : PloamEvent → Option FalconPloamCtx
  | .rxIrq arrived =>
      some { ctx with gtc :=
        { ctx.gtc with dsFifo := ctx.gtc.dsFifo ++ arrived } }.falconPloamRxIrqHandler
  | .work => ctx.falconPloamFsmWorker
  | .to1Expiry => if ctx.to1Timer then some { ctx with to1Timer := false }.to1TimerFn else none
  | .to2Expiry => if ctx.to2Timer then some { ctx with to2Timer := false }.to2TimerFn else none
  | .los los => some (ctx.falconPloamEventLos los)
  | .lof lof => some (ctx.falconPloamEventLof lof)

end FalconGpon.Ploam
