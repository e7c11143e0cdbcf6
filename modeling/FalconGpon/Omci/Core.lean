/-
# The OMCI core: core thread and action thread

`omci_core.c` serves requests with two threads. The core thread takes messages
from the FIFO; the action thread runs the message handler. They share the
`action` record, two counting events, the retransmit buffers and the static
busy response, and either thread may be overtaken by the other between any two
accesses. `step` is that system: one event moves one thread by one access, lets
the core thread's wait expire, or lets the environment act.

The message handler is a parameter (`MsgHandler`), so everything here holds for
every handler whose response names the transaction it answers.

`Request.ordinal`, `Request.copy`, `Response.computedFor` and `CoreState.log` are
history: no step reads them to decide what the threads do.
-/

import FalconGpon.Lib.Transition
import FalconGpon.Omci.Message

namespace FalconGpon.Omci

open FalconGpon.Lib

/-- What `msg_handle` leaves behind: the MIB, the response, the error code and
whether a MIB reset flushed the retransmit buffers on the way. -/
structure MsgResult (σ : Type) where
  mib : σ
  rsp : OmciMsg
  error : OmciError
  flushed : Bool

/-- The handler the action thread runs, together with the increment of the MIB
sequence number. Action handlers fill in the contents of the response and may
suppress it; they never touch the transaction it names. -/
structure MsgHandler (σ : Type) where
  msgHandle : σ → OmciMsg → MsgResult σ
  mibSeqNumInc : σ → σ
  answers : ∀ mib msg, SameTransaction msg (msgHandle mib msg).rsp

/-- A message the core thread has taken from the FIFO. -/
structure Request where
  msg : OmciMsg
  /-- Position in the order in which requests were taken, from one. -/
  ordinal : Nat
  /-- It repeats the request taken before it on the same priority. -/
  copy : Bool
deriving DecidableEq

/-- The contents of a response buffer and the request it was built from. -/
structure Response where
  bytes : OmciMsg
  computedFor : Option Request
deriving DecidableEq

/-- `uint8_t prio = tci & 0x8000 ? 1 : 0`. -/
def prio (tci : BitVec 16) : Bool := tci &&& 0x8000#16 != 0#16

abbrev Request.prio (request : Request) : Bool := Omci.prio request.msg.header.tci

/-- One slot of `struct retransmit`. -/
structure RetransmitData where
  valid : Bool
  tci : BitVec 16
  rsp : Response
deriving DecidableEq

/-- `struct action_handler`. -/
structure ActionHandler where
  run : Bool
  ready : Bool
  msg : Request
  rsp : Response
  handlerError : OmciError

/-- Where the core thread stands between two accesses to shared state. -/
inductive CorePc
  /-- Waiting for a message in the FIFO. -/
  | idle
  /-- Message copied, about to read `context->action.run`. -/
  | received (request : Request)
  /-- Entering `service_delayed_action`. -/
  | delayed (request : Request)
  /-- Entering `service_retransmission`. -/
  | retransmission (request : Request)
  /-- `service_action`: about to create the blank response. -/
  | create (request : Request)
  /-- About to copy the message into the action record. -/
  | store (request : Request)
  /-- About to set `context->action.run`. -/
  | start (request : Request)
  /-- About to wake up the action event. -/
  | wakeUp (request : Request)
  /-- In `IFXOS_EventWait` on the handled event. -/
  | wait (request : Request)
  /-- Woken in time, about to read `context->action.run`. -/
  | check (request : Request)
  /-- About to answer that the device is busy. -/
  | busy (request : Request)
  /-- About to collect and send the response. -/
  | collect (request : Request)
deriving DecidableEq

/-- Where the action thread stands. -/
inductive ActionPc
  /-- In `IFXOS_EventWait` on the action event. -/
  | wait
  /-- Woken, about to read the message type. -/
  | woken
  /-- MIB locked, about to copy the blank response. -/
  | begin (mt : Byte)
  /-- About to run the message handler. -/
  | handle (mt : Byte) (rsp : Response)
  /-- About to publish the response. -/
  | finish (rsp : Response)
  /-- About to wake up the handled event. -/
  | signal
deriving DecidableEq

/-- Which function of the core thread sent a response. -/
inductive Path
  /-- `service_busy_device` while an action is running. -/
  | running
  /-- `service_delayed_action`. -/
  | delayed
  /-- `service_retransmission`. -/
  | retransmission
  /-- `service_busy_device` after the wait of `service_action` failed. -/
  | busy
  /-- `service_action` with the response of the action thread. -/
  | action
deriving DecidableEq

/-- What has happened, one entry for each visible event. -/
inductive LogEntry (σ : Type)
  /-- The core thread took a request while an action was `executing`, or while
  a `late` response had not been delivered. -/
  | taken (request : Request) (executing late : Bool)
  /-- A response went out as the result of taking `request`. -/
  | sent (request : Request) (path : Path) (rsp : Response)
  /-- The message handler ran for `request`. -/
  | handled (request : Request) (failsafe : Bool)
  /-- The action thread published the response to `request`. -/
  | completed (request : Request) (rsp : Response)
  /-- The retransmit buffers were flushed. -/
  | flushed
  /-- Another thread changed the MIB. -/
  | onu (mib : σ)
deriving DecidableEq

/-- The shared state and the position of both threads. -/
structure CoreState (σ : Type) where
  fifo : List OmciMsg
  action : ActionHandler
  actionEvent : Nat
  handledEvent : Nat
  retransmit : Bool → RetransmitData
  /-- The static response of `service_busy_device`. -/
  busyRsp : Response
  failsafe : Bool
  mib : σ
  corePc : CorePc
  actionPc : ActionPc
  takenCount : Nat
  /-- History, newest entry first. -/
  log : List (LogEntry σ)

/-- An event of the interleaved system. -/
inductive CoreEvent (σ : Type)
  /-- `omci_msg_recv` puts a message into the FIFO. -/
  | arrive (msg : OmciMsg)
  /-- `ploam_state_change_cb` clears the FIFO. -/
  | fifoClear
  /-- `omci_failsafe_enable`. -/
  | failsafeEnable (enable : Bool)
  /-- Another thread changes the MIB. -/
  | onu (mib : σ)
  /-- Another thread resets the MIB, which calls `retransmit_flush`. -/
  | retransmitFlush
  /-- The core thread moves. -/
  | core
  /-- The core thread's wait for the handled event expires. -/
  | timeout
  /-- The action thread moves. -/
  | action

variable {σ : Type}

/-- The last request taken on a priority. -/
def lastTaken (priority : Bool) : List (LogEntry σ) → Option Request
  | [] => none
  | .taken request _ _ :: rest =>
      if request.prio = priority then some request else lastTaken priority rest
  | _ :: rest => lastTaken priority rest

namespace CoreState

/-- The context as `omci_init` leaves it, with the threads started. -/
def init (mib : σ) : CoreState σ where
  fifo := []
  action :=
    { run := false
      ready := false
      msg := { msg := OmciMsg.zero, ordinal := 0, copy := false }
      rsp := { bytes := OmciMsg.zero, computedFor := none }
      handlerError := .success }
  actionEvent := 0
  handledEvent := 0
  retransmit _ :=
    { valid := false
      tci := 0
      rsp := { bytes := OmciMsg.zero, computedFor := none } }
  busyRsp := { bytes := OmciMsg.zero, computedFor := none }
  failsafe := false
  mib := mib
  corePc := .idle
  actionPc := .wait
  takenCount := 0
  log := []

/-- Tag the message at the head of the FIFO. -/
def requestOf (s : CoreState σ) (msg : OmciMsg) : Request where
  msg := msg
  ordinal := s.takenCount + 1
  copy :=
    match lastTaken (prio msg.header.tci) s.log with
    | some last => decide (last.msg = msg)
    | none => false

/-- `omci_msg_send`, and back to waiting for a message. -/
def send (s : CoreState σ) (request : Request) (path : Path) (rsp : Response) : CoreState σ :=
  { s with corePc := .idle, log := .sent request path rsp :: s.log }

/-- `retransmit_flush`. -/
def retransmitFlush (s : CoreState σ) : CoreState σ :=
  { s with
    retransmit := fun priority => { s.retransmit priority with valid := false }
    log := .flushed :: s.log }

/-- `rsp_remember`. -/
def rspRemember (s : CoreState σ) (tci : BitVec 16) (rsp : Response) : CoreState σ :=
  { s with
    retransmit := fun priority =>
      if priority = prio tci then { valid := true, tci := tci, rsp := rsp }
      else s.retransmit priority }

/-- `rsp_retransmit`: the remembered response, if it is valid for `tci`. -/
def rspRetransmit (s : CoreState σ) (tci : BitVec 16) : Option Response :=
  let data := s.retransmit (prio tci)
  if data.valid && tci == data.tci then some data.rsp else none

/-- `service_busy_device`: without a message the static response goes out as
the previous call left it. -/
def serviceBusyDevice (s : CoreState σ) (request : Request) (path : Path)
    (msg : Option OmciMsg) : CoreState σ :=
  let rsp : Response :=
    match msg with
    | some msg => { bytes := rspCreate msg, computedFor := some request }
    | none => s.busyRsp
  { s with busyRsp := rsp }.send request path rsp

/-- `service_delayed_action`. -/
def serviceDelayedAction (s : CoreState σ) (request : Request) : CoreState σ :=
  if s.action.ready then
    let rsp := s.action.rsp
    let s := { s with action := { s.action with ready := false } }
    if omciMsgTypeAkGet rsp.bytes = 0 then { s with corePc := .retransmission request }
    else s.send request .delayed rsp
  else { s with corePc := .retransmission request }

/-- `service_retransmission`. -/
def serviceRetransmission (s : CoreState σ) (request : Request) : CoreState σ :=
  match s.rspRetransmit request.msg.header.tci with
  | some rsp =>
      if omciMsgTypeAkGet rsp.bytes = 0 then { s with corePc := .create request }
      else s.send request .retransmission rsp
  | none => { s with corePc := .create request }

/-- The end of `service_action`: collect the response and send it unless its Ak
bit is clear. -/
def serviceActionCollect (s : CoreState σ) (request : Request) : CoreState σ :=
  let rsp := s.action.rsp
  let s := { s with action := { s.action with ready := false } }
  if omciMsgTypeAkGet rsp.bytes = 0 then { s with corePc := .idle }
  else s.send request .action rsp

/-- One access of the core thread. -/
def coreStep (s : CoreState σ) : Option (CoreState σ) :=
  match s.corePc with
  | .idle =>
      match s.fifo with
      | [] => none
      | msg :: fifo =>
          some { s with
            fifo := fifo
            corePc := .received (s.requestOf msg)
            takenCount := s.takenCount + 1
            log := .taken (s.requestOf msg) s.action.run s.action.ready :: s.log }
  | .received request =>
      if s.action.run then some (s.serviceBusyDevice request .running none)
      else some { s with corePc := .delayed request }
  | .delayed request => some (s.serviceDelayedAction request)
  | .retransmission request => some (s.serviceRetransmission request)
  | .create request =>
      some { s with
        action := { s.action with
          rsp := { bytes := rspCreate request.msg, computedFor := some request } }
        corePc := .store request }
  | .store request =>
      some { s with action := { s.action with msg := request }, corePc := .start request }
  | .start request =>
      some { s with action := { s.action with run := true }, corePc := .wakeUp request }
  | .wakeUp request =>
      some { s with actionEvent := s.actionEvent + 1, corePc := .wait request }
  | .wait request =>
      if s.handledEvent = 0 then none
      else some { s with handledEvent := s.handledEvent - 1, corePc := .check request }
  | .check request =>
      if s.action.run then some { s with corePc := .busy request }
      else some { s with corePc := .collect request }
  | .busy request => some (s.serviceBusyDevice request .busy (some request.msg))
  | .collect request => some (s.serviceActionCollect request)

/-- `IFXOS_EventWait` gives up; `service_action` then answers busy without
looking at `context->action.run`. -/
def timeoutStep (s : CoreState σ) : Option (CoreState σ) :=
  match s.corePc with
  | .wait request => some { s with corePc := .busy request }
  | _ => none

end CoreState

def mtChangesMib (mt : Byte) : Bool :=
  mt == mtCreate || mt == mtDelete || mt == mtSet

/-- The body of the action thread between copying the blank response and
publishing the final one. -/
def MsgHandler.perform (handler : MsgHandler σ) (failsafe : Bool) (mt : Byte)
    (mib : σ) (msg : OmciMsg) : MsgResult σ :=
  let result := handler.msgHandle mib msg
  let result :=
    if failsafe && result.error != .success then
      { result with error := .success, rsp := rspCreate msg }
    else result
  if mtChangesMib mt && result.error == .success then
    { result with mib := handler.mibSeqNumInc result.mib }
  else result

namespace CoreState

/-- One access of the action thread. -/
def actionStep (handler : MsgHandler σ) (s : CoreState σ) : Option (CoreState σ) :=
  match s.actionPc with
  | .wait =>
      if s.actionEvent = 0 then none
      else some { s with actionEvent := s.actionEvent - 1, actionPc := .woken }
  | .woken => some { s with actionPc := .begin (omciMsgTypeMtGet s.action.msg.msg) }
  | .begin mt =>
      some { s with
        action := { s.action with ready := false }
        actionPc := .handle mt s.action.rsp }
  | .handle mt _ =>
      let request := s.action.msg
      let result := handler.perform s.failsafe mt s.mib request.msg
      let s := if result.flushed then s.retransmitFlush else s
      some { s with
        mib := result.mib
        action := { s.action with handlerError := result.error }
        actionPc := .finish { bytes := result.rsp, computedFor := some request }
        log := .handled request s.failsafe :: s.log }
  | .finish rsp =>
      let s' :=
        if omciMsgTypeAkGet rsp.bytes = 1 then
          s.rspRemember s.action.msg.msg.header.tci rsp
        else s
      some { s' with
        action := { s'.action with rsp := rsp, run := false, ready := true }
        actionPc := .signal
        log := .completed s.action.msg rsp :: s.log }
  | .signal => some { s with handledEvent := s.handledEvent + 1, actionPc := .wait }

/-- One event of the interleaved system. -/
def step (handler : MsgHandler σ) (s : CoreState σ) : CoreEvent σ → Option (CoreState σ)
  | .arrive msg => some { s with fifo := s.fifo ++ [msg] }
  | .fifoClear => some { s with fifo := [] }
  | .failsafeEnable enable => some { s with failsafe := enable }
  | .onu mib => some { s with mib := mib, log := .onu mib :: s.log }
  | .retransmitFlush => some s.retransmitFlush
  | .core => s.coreStep
  | .timeout => s.timeoutStep
  | .action => s.actionStep handler

end CoreState

end FalconGpon.Omci
