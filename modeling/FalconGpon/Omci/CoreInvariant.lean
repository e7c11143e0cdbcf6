/-
# What the two threads know of each other

`Step` is the inversion of `CoreState.step`: one constructor for each access,
with its guards. Every later fact about runs is a case analysis on it.

`Inv` relates the running flag, the counting events and the buffers. Its core
is `Phase`: while the core thread prepares an action no other action is in
flight, and when it stops waiting without finding the running flag set, the
response buffer holds the response to its own request, however many wakeups of
the handled event earlier timed-out actions have left behind.
-/

import FalconGpon.Omci.Core

namespace FalconGpon.Omci

open FalconGpon.Lib

variable {σ : Type}

/-- The response was built from `request` and names its transaction. -/
def Response.Answers (rsp : Response) (request : Request) : Prop :=
  rsp.computedFor = some request ∧ SameTransaction request.msg rsp.bytes

def Response.Consistent (rsp : Response) : Prop :=
  ∀ request, rsp.computedFor = some request → rsp.Answers request

theorem Response.Answers.consistent {rsp : Response} {request : Request}
    (h : rsp.Answers request) : rsp.Consistent := by
  intro other hother
  have hsame : request = other := Option.some.inj (h.1.symm.trans hother)
  exact hsame ▸ h

theorem Response.answers_rspCreate (request : Request) :
    Response.Answers { bytes := rspCreate request.msg, computedFor := some request } request :=
  ⟨rfl, rspCreate_sameTransaction request.msg⟩

/-- The response the action thread arrives at names the transaction of its
message, in failsafe mode too. -/
theorem MsgHandler.perform_answers (handler : MsgHandler σ) (failsafe : Bool)
    (mt : Byte) (mib : σ) (msg : OmciMsg) :
    SameTransaction msg (handler.perform failsafe mt mib msg).rsp := by
  have hhandle := handler.answers mib msg
  have hcreate := rspCreate_sameTransaction msg
  by_cases hfailsafe :
      (failsafe && (handler.msgHandle mib msg).error != .success) = true
  · rw [perform, if_pos hfailsafe]
    split <;> exact hcreate
  · rw [perform, if_neg hfailsafe]
    split <;> exact hhandle

def ActionPc.resting : ActionPc → Bool
  | .wait | .signal => true
  | .woken | .begin _ | .handle _ _ | .finish _ => false

namespace CoreState

/-- One access of one thread, or one event of the environment. -/
inductive Step (handler : MsgHandler σ) (s : CoreState σ) :
    CoreEvent σ → CoreState σ → Prop
  | arrive (msg : OmciMsg) :
      Step handler s (.arrive msg) { s with fifo := s.fifo ++ [msg] }
  | fifoClear : Step handler s .fifoClear { s with fifo := [] }
  | failsafeEnable (enable : Bool) :
      Step handler s (.failsafeEnable enable) { s with failsafe := enable }
  | onu (mib : σ) :
      Step handler s (.onu mib) { s with mib := mib, log := .onu mib :: s.log }
  | flush : Step handler s .retransmitFlush s.retransmitFlush
  | take (msg : OmciMsg) (fifo : List OmciMsg)
      (hpc : s.corePc = .idle) (hfifo : s.fifo = msg :: fifo) :
      Step handler s .core
        { s with
          fifo := fifo
          corePc := .received (s.requestOf msg)
          takenCount := s.takenCount + 1
          log := .taken (s.requestOf msg) s.action.run s.action.ready :: s.log }
  | running (r : Request) (hpc : s.corePc = .received r) (hrun : s.action.run = true) :
      Step handler s .core
        { s with corePc := .idle, log := .sent r .running s.busyRsp :: s.log }
  | notRunning (r : Request) (hpc : s.corePc = .received r)
      (hrun : s.action.run = false) :
      Step handler s .core { s with corePc := .delayed r }
  | notLate (r : Request) (hpc : s.corePc = .delayed r)
      (hready : s.action.ready = false) :
      Step handler s .core { s with corePc := .retransmission r }
  | lateDropped (r : Request) (hpc : s.corePc = .delayed r)
      (hready : s.action.ready = true)
      (hak : omciMsgTypeAkGet s.action.rsp.bytes = 0) :
      Step handler s .core
        { s with
          action := { s.action with ready := false }
          corePc := .retransmission r }
  | lateSent (r : Request) (hpc : s.corePc = .delayed r)
      (hready : s.action.ready = true)
      (hak : omciMsgTypeAkGet s.action.rsp.bytes ≠ 0) :
      Step handler s .core
        { s with
          action := { s.action with ready := false }
          corePc := .idle
          log := .sent r .delayed s.action.rsp :: s.log }
  | fresh (r : Request) (hpc : s.corePc = .retransmission r)
      (hmiss : s.rspRetransmit r.msg.header.tci = none) :
      Step handler s .core { s with corePc := .create r }
  | retransmitDropped (r : Request) (rsp : Response)
      (hpc : s.corePc = .retransmission r)
      (hhit : s.rspRetransmit r.msg.header.tci = some rsp)
      (hak : omciMsgTypeAkGet rsp.bytes = 0) :
      Step handler s .core { s with corePc := .create r }
  | retransmit (r : Request) (rsp : Response) (hpc : s.corePc = .retransmission r)
      (hhit : s.rspRetransmit r.msg.header.tci = some rsp)
      (hak : omciMsgTypeAkGet rsp.bytes ≠ 0) :
      Step handler s .core
        { s with corePc := .idle, log := .sent r .retransmission rsp :: s.log }
  | create (r : Request) (hpc : s.corePc = .create r) :
      Step handler s .core
        { s with
          action := { s.action with
            rsp := { bytes := rspCreate r.msg, computedFor := some r } }
          corePc := .store r }
  | store (r : Request) (hpc : s.corePc = .store r) :
      Step handler s .core
        { s with action := { s.action with msg := r }, corePc := .start r }
  | start (r : Request) (hpc : s.corePc = .start r) :
      Step handler s .core
        { s with action := { s.action with run := true }, corePc := .wakeUp r }
  | wakeUp (r : Request) (hpc : s.corePc = .wakeUp r) :
      Step handler s .core
        { s with actionEvent := s.actionEvent + 1, corePc := .wait r }
  | woken (r : Request) (hpc : s.corePc = .wait r) (hevent : s.handledEvent ≠ 0) :
      Step handler s .core
        { s with handledEvent := s.handledEvent - 1, corePc := .check r }
  | expire (r : Request) (hpc : s.corePc = .wait r) :
      Step handler s .timeout { s with corePc := .busy r }
  | stillRunning (r : Request) (hpc : s.corePc = .check r)
      (hrun : s.action.run = true) :
      Step handler s .core { s with corePc := .busy r }
  | finished (r : Request) (hpc : s.corePc = .check r)
      (hrun : s.action.run = false) :
      Step handler s .core { s with corePc := .collect r }
  | busy (r : Request) (hpc : s.corePc = .busy r) :
      Step handler s .core
        { s with
          busyRsp := { bytes := rspCreate r.msg, computedFor := some r }
          corePc := .idle
          log := .sent r .busy { bytes := rspCreate r.msg, computedFor := some r } ::
            s.log }
  | collectDropped (r : Request) (hpc : s.corePc = .collect r)
      (hak : omciMsgTypeAkGet s.action.rsp.bytes = 0) :
      Step handler s .core
        { s with action := { s.action with ready := false }, corePc := .idle }
  | collect (r : Request) (hpc : s.corePc = .collect r)
      (hak : omciMsgTypeAkGet s.action.rsp.bytes ≠ 0) :
      Step handler s .core
        { s with
          action := { s.action with ready := false }
          corePc := .idle
          log := .sent r .action s.action.rsp :: s.log }
  | actionWoken (hpc : s.actionPc = .wait) (hevent : s.actionEvent ≠ 0) :
      Step handler s .action
        { s with actionEvent := s.actionEvent - 1, actionPc := .woken }
  | actionRead (hpc : s.actionPc = .woken) :
      Step handler s .action
        { s with actionPc := .begin (omciMsgTypeMtGet s.action.msg.msg) }
  | actionBegin (mt : Byte) (hpc : s.actionPc = .begin mt) :
      Step handler s .action
        { s with
          action := { s.action with ready := false }
          actionPc := .handle mt s.action.rsp }
  | actionHandle (mt : Byte) (rsp : Response) (result : MsgResult σ)
      (hpc : s.actionPc = .handle mt rsp)
      (hresult : handler.perform s.failsafe mt s.mib s.action.msg.msg = result)
      (hflush : result.flushed = false) :
      Step handler s .action
        { s with
          mib := result.mib
          action := { s.action with handlerError := result.error }
          actionPc := .finish { bytes := result.rsp, computedFor := some s.action.msg }
          log := .handled s.action.msg s.failsafe :: s.log }
  | actionHandleFlush (mt : Byte) (rsp : Response) (result : MsgResult σ)
      (hpc : s.actionPc = .handle mt rsp)
      (hresult : handler.perform s.failsafe mt s.mib s.action.msg.msg = result)
      (hflush : result.flushed = true) :
      Step handler s .action
        { s with
          mib := result.mib
          action := { s.action with handlerError := result.error }
          retransmit := fun priority => { s.retransmit priority with valid := false }
          actionPc := .finish { bytes := result.rsp, computedFor := some s.action.msg }
          log := .handled s.action.msg s.failsafe :: .flushed :: s.log }
  | actionFinish (rsp : Response) (hpc : s.actionPc = .finish rsp)
      (hak : omciMsgTypeAkGet rsp.bytes ≠ 1) :
      Step handler s .action
        { s with
          action := { s.action with rsp := rsp, run := false, ready := true }
          actionPc := .signal
          log := .completed s.action.msg rsp :: s.log }
  | actionFinishRemember (rsp : Response) (hpc : s.actionPc = .finish rsp)
      (hak : omciMsgTypeAkGet rsp.bytes = 1) :
      Step handler s .action
        { s.rspRemember s.action.msg.msg.header.tci rsp with
          action := { s.action with rsp := rsp, run := false, ready := true }
          actionPc := .signal
          log := .completed s.action.msg rsp :: s.log }
  | actionSignal (hpc : s.actionPc = .signal) :
      Step handler s .action
        { s with handledEvent := s.handledEvent + 1, actionPc := .wait }

variable {handler : MsgHandler σ} {s s' : CoreState σ}

private theorem step_core_cases (h : s.coreStep = some s') : Step handler s .core s' := by
  rw [coreStep] at h
  split at h <;> rename_i hpc
  · split at h <;> rename_i hfifo
    · cases h
    · cases h; exact .take _ _ hpc hfifo
  · split at h <;> rename_i hrun
    · cases h; exact .running _ hpc hrun
    · cases h; exact .notRunning _ hpc (by simpa using hrun)
  · cases h
    rw [serviceDelayedAction]
    split <;> rename_i hready
    · dsimp only
      split <;> rename_i hak
      · exact .lateDropped _ hpc hready hak
      · exact .lateSent _ hpc hready hak
    · exact .notLate _ hpc (by simpa using hready)
  · cases h
    rw [serviceRetransmission]
    split <;> rename_i hhit
    · split <;> rename_i hak
      · exact .retransmitDropped _ _ hpc hhit hak
      · exact .retransmit _ _ hpc hhit hak
    · exact .fresh _ hpc hhit
  · cases h; exact .create _ hpc
  · cases h; exact .store _ hpc
  · cases h; exact .start _ hpc
  · cases h; exact .wakeUp _ hpc
  · split at h <;> rename_i hevent
    · cases h
    · cases h; exact .woken _ hpc hevent
  · split at h <;> rename_i hrun
    · cases h; exact .stillRunning _ hpc hrun
    · cases h; exact .finished _ hpc (by simpa using hrun)
  · cases h; exact .busy _ hpc
  · cases h
    rw [serviceActionCollect]
    dsimp only
    split <;> rename_i hak
    · exact .collectDropped _ hpc hak
    · exact .collect _ hpc hak

private theorem step_action_cases (h : s.actionStep handler = some s') :
    Step handler s .action s' := by
  rw [actionStep] at h
  split at h <;> rename_i hpc
  · split at h <;> rename_i hevent
    · cases h
    · cases h; exact .actionWoken hpc hevent
  · cases h; exact .actionRead hpc
  · cases h; exact .actionBegin _ hpc
  · cases h
    cases hflush : (handler.perform s.failsafe _ s.mib s.action.msg.msg).flushed with
    | false => simpa [hflush] using Step.actionHandle _ _ _ hpc rfl hflush
    | true => simpa [hflush, retransmitFlush] using Step.actionHandleFlush _ _ _ hpc rfl hflush
  · cases h
    split <;> rename_i hak
    · exact .actionFinishRemember _ hpc hak
    · exact .actionFinish _ hpc hak
  · cases h; exact .actionSignal hpc

/-- Every step of the system is one of the accesses listed in `Step`. -/
theorem step_cases {event : CoreEvent σ} (h : s.step handler event = some s') :
    Step handler s event s' := by
  cases event with
  | arrive msg => cases h; exact .arrive msg
  | fifoClear => cases h; exact .fifoClear
  | failsafeEnable enable => cases h; exact .failsafeEnable enable
  | onu mib => cases h; exact .onu mib
  | retransmitFlush => cases h; exact .flush
  | core => exact step_core_cases h
  | timeout =>
      change s.timeoutStep = some s' at h
      rw [timeoutStep] at h
      split at h <;> rename_i hpc
      · cases h; exact .expire _ hpc
      · cases h
  | action => exact step_action_cases h

end CoreState

/-! ## The invariant -/

/-- What one thread leaves for the other: the action record, the pending
wakeups of the action event and the position of the action thread. -/
structure Handover where
  action : ActionHandler
  event : Nat
  pc : ActionPc

namespace Handover

/-- No action is in flight. -/
structure Quiet (h : Handover) : Prop where
  run : h.action.run = false
  event : h.event = 0
  resting : h.pc.resting = true

/-- The action thread has been handed an action and has not published its
response: the wakeup is pending, or the thread is on its way. -/
structure InFlight (h : Handover) : Prop where
  run : h.action.run = true
  ready : h.action.ready = false
  stage : h.event = 1 ∧ h.pc.resting = true ∨ h.event = 0 ∧ h.pc.resting = false

/-- The action handed over last has published its response. -/
structure Done (h : Handover) : Prop extends Quiet h where
  answers : h.action.rsp.Answers h.action.msg

/-- The running flag is up and the wakeup is still to come. -/
structure Raised (h : Handover) : Prop where
  run : h.action.run = true
  ready : h.action.ready = false
  event : h.event = 0
  resting : h.pc.resting = true

/-- What holds at each position of the core thread. -/
def Phase (h : Handover) : CorePc → Prop
  | .idle => h.Quiet ∨ h.InFlight
  | .received _ => h.Quiet ∨ h.InFlight
  | .delayed _ => h.Quiet
  | .retransmission _ => h.Quiet ∧ h.action.ready = false
  | .create _ => h.Quiet ∧ h.action.ready = false
  | .store _ => h.Quiet ∧ h.action.ready = false
  | .start r => h.action.msg = r ∧ h.Quiet ∧ h.action.ready = false
  | .wakeUp r => h.action.msg = r ∧ h.Raised
  | .wait r => h.action.msg = r ∧ (h.Done ∨ h.InFlight)
  | .check r => h.action.msg = r ∧ (h.Done ∨ h.InFlight)
  | .busy r => h.action.msg = r ∧ (h.Quiet ∨ h.InFlight)
  | .collect r => h.action.msg = r ∧ h.Done

/-- What the action thread has in hand belongs to the message it was given. -/
structure Coherent (h : Handover) : Prop where
  late : h.action.ready = true → h.action.rsp.Answers h.action.msg
  finish : ∀ rsp, h.pc = .finish rsp → rsp.Answers h.action.msg
  begin : ∀ mt, h.pc = .begin mt → mt = omciMsgTypeMtGet h.action.msg.msg
  handle : ∀ mt rsp, h.pc = .handle mt rsp → mt = omciMsgTypeMtGet h.action.msg.msg

variable {h : Handover}

theorem Quiet.coherent (hquiet : h.Quiet)
    (hlate : h.action.ready = true → h.action.rsp.Answers h.action.msg) : h.Coherent where
  late := hlate
  finish rsp hpc := by simpa [hpc, ActionPc.resting] using hquiet.resting
  begin mt hpc := by simpa [hpc, ActionPc.resting] using hquiet.resting
  handle mt rsp hpc := by simpa [hpc, ActionPc.resting] using hquiet.resting

/-- What an access of the action thread can do to the handover. -/
structure Advance (h h' : Handover) : Prop where
  msg : h'.action.msg = h.action.msg
  quiet : h.Quiet → h'.Quiet ∧ h'.action = h.action
  raised : h.Raised → h'.Raised
  inFlight : h.InFlight → h'.InFlight ∨ h'.Done

variable {h' : Handover}

theorem Advance.of_working (hworking : h.pc.resting = false) (hmsg : h'.action.msg = h.action.msg)
    (hflight : h.InFlight → h'.InFlight ∨ h'.Done) : Advance h h' where
  msg := hmsg
  quiet hquiet := absurd hquiet.resting (by simp [hworking])
  raised hraised := absurd hraised.resting (by simp [hworking])
  inFlight := hflight

theorem InFlight.event_eq_zero (hflight : h.InFlight)
    (hworking : h.pc.resting = false) : h.event = 0 := by
  rcases hflight.stage with ⟨-, hresting⟩ | ⟨hzero, -⟩
  · exact absurd hresting (by simp [hworking])
  · exact hzero

theorem Advance.done (hadv : Advance h h') (hdone : h.Done) : h'.Done := by
  obtain ⟨hquiet, haction⟩ := hadv.quiet hdone.toQuiet
  exact ⟨hquiet, haction ▸ hdone.answers⟩

theorem Advance.quietOrInFlight (hadv : Advance h h')
    (hor : h.Quiet ∨ h.InFlight) : h'.Quiet ∨ h'.InFlight := by
  rcases hor with hquiet | hflight
  · exact Or.inl (hadv.quiet hquiet).1
  · exact (hadv.inFlight hflight).symm.imp_left fun hdone => hdone.toQuiet

theorem Advance.doneOrInFlight (hadv : Advance h h')
    (hor : h.Done ∨ h.InFlight) : h'.Done ∨ h'.InFlight := by
  rcases hor with hdone | hflight
  · exact Or.inl (hadv.done hdone)
  · exact (hadv.inFlight hflight).symm

/-- The action thread keeps what the core thread knows, wherever it stands. -/
theorem Phase.advance {pc : CorePc} (hphase : h.Phase pc) (hadv : Advance h h') : h'.Phase pc := by
  have hnotReady (hq : h.Quiet ∧ h.action.ready = false) :
      h'.Quiet ∧ h'.action.ready = false := by
    obtain ⟨hquiet, haction⟩ := hadv.quiet hq.1
    exact ⟨hquiet, haction ▸ hq.2⟩
  cases pc with
  | idle => exact hadv.quietOrInFlight hphase
  | received r => exact hadv.quietOrInFlight hphase
  | delayed r => exact (hadv.quiet hphase).1
  | retransmission r => exact hnotReady hphase
  | create r => exact hnotReady hphase
  | store r => exact hnotReady hphase
  | start r => exact ⟨hadv.msg.trans hphase.1, hnotReady hphase.2⟩
  | wakeUp r => exact ⟨hadv.msg.trans hphase.1, hadv.raised hphase.2⟩
  | wait r | check r => exact ⟨hadv.msg.trans hphase.1, hadv.doneOrInFlight hphase.2⟩
  | busy r => exact ⟨hadv.msg.trans hphase.1, hadv.quietOrInFlight hphase.2⟩
  | collect r => exact ⟨hadv.msg.trans hphase.1, hadv.done hphase.2⟩

end Handover

namespace CoreState

def handover (s : CoreState σ) : Handover := ⟨s.action, s.actionEvent, s.actionPc⟩

/-- What the two threads know of each other in every reachable state. -/
structure Inv (s : CoreState σ) : Prop where
  phase : s.handover.Phase s.corePc
  coherent : s.handover.Coherent
  remembered : ∀ priority, (s.retransmit priority).rsp.Consistent
  busyRsp : s.busyRsp.Consistent

theorem inv_init (mib : σ) : Inv (init mib) where
  phase := Or.inl ⟨rfl, rfl, rfl⟩
  coherent := Handover.Quiet.coherent ⟨rfl, rfl, rfl⟩ fun h => by simp [handover, init] at h
  remembered _ _ h := by simp [init] at h
  busyRsp _ h := by simp [init] at h

/-- An access of the action thread advances the handover and leaves the core
thread where it stands. -/
theorem advance_of_action (hcoherent : s.handover.Coherent) (hstep : Step handler s .action s') :
    Handover.Advance s.handover s'.handover ∧ s'.corePc = s.corePc := by
  cases hstep with
  | actionWoken hpc hevent =>
      refine ⟨⟨rfl, fun h => absurd h.event hevent, fun h => absurd h.event hevent, ?_⟩, rfl⟩
      intro hflight
      rcases hflight.stage with ⟨hone, -⟩ | ⟨hzero, -⟩
      · have hnone : s.actionEvent - 1 = 0 := by rw [show s.actionEvent = 1 from hone]
        exact Or.inl ⟨hflight.run, hflight.ready, Or.inr ⟨hnone, rfl⟩⟩
      · exact absurd hzero hevent
  | actionRead hpc | actionHandle mt rsp result hpc hresult hflush
  | actionHandleFlush mt rsp result hpc hresult hflush =>
      have hworking : s.handover.pc.resting = false := by simp [handover, hpc, ActionPc.resting]
      refine ⟨.of_working hworking rfl fun hflight => Or.inl ?_, rfl⟩
      exact ⟨hflight.run, hflight.ready, Or.inr ⟨hflight.event_eq_zero hworking, rfl⟩⟩
  | actionBegin mt hpc =>
      have hworking : s.handover.pc.resting = false := by simp [handover, hpc, ActionPc.resting]
      refine ⟨.of_working hworking rfl fun hflight => Or.inl ?_, rfl⟩
      exact ⟨hflight.run, rfl, Or.inr ⟨hflight.event_eq_zero hworking, rfl⟩⟩
  | actionFinish rsp hpc hak | actionFinishRemember rsp hpc hak =>
      have hworking : s.handover.pc.resting = false := by simp [handover, hpc, ActionPc.resting]
      refine ⟨.of_working hworking rfl fun hflight => Or.inr ?_, rfl⟩
      exact ⟨⟨rfl, hflight.event_eq_zero hworking, rfl⟩, hcoherent.finish rsp hpc⟩
  | actionSignal hpc =>
      refine ⟨⟨rfl, fun h => ⟨⟨h.run, h.event, rfl⟩, rfl⟩,
        fun h => ⟨h.run, h.ready, h.event, rfl⟩, fun h => Or.inl ⟨h.run, h.ready, ?_⟩⟩, rfl⟩
      rcases h.stage with ⟨hone, -⟩ | ⟨-, hworking⟩
      · exact Or.inl ⟨hone, rfl⟩
      · simp [handover, hpc, ActionPc.resting] at hworking

/-- What the action thread has in hand keeps belonging to its message. -/
theorem coherent_of_action (hcoherent : s.handover.Coherent)
    (hstep : Step handler s .action s') : s'.handover.Coherent := by
  have ⟨hlate, hfinish, _, _⟩ := hcoherent
  cases hstep with
  | actionWoken hpc hevent =>
      exact ⟨hlate, nofun, nofun, nofun⟩
  | actionRead hpc =>
      exact ⟨hlate, nofun, fun _ h => (by cases h; rfl), nofun⟩
  | actionBegin mt hpc =>
      refine ⟨nofun, nofun, nofun, ?_⟩
      intro mt' rsp h
      cases h
      exact hcoherent.begin mt hpc
  | actionHandle mt rsp result hpc hresult hflush
  | actionHandleFlush mt rsp result hpc hresult hflush =>
      refine ⟨hlate, ?_, nofun, nofun⟩
      intro rsp' h
      cases h
      exact ⟨rfl, hresult ▸ handler.perform_answers _ _ _ _⟩
  | actionFinish rsp hpc hak | actionFinishRemember rsp hpc hak =>
      exact ⟨fun _ => hfinish rsp hpc, nofun, nofun,
        nofun⟩
  | actionSignal hpc =>
      exact ⟨hlate, nofun, nofun, nofun⟩

variable {event : CoreEvent σ}

/-- The core thread moves on with the knowledge its next position asks for. -/
theorem phase_of_core (hphase : s.handover.Phase s.corePc)
    (hstep : Step handler s event s') (hevent : event = .core ∨ event = .timeout) :
    s'.handover.Phase s'.corePc := by
  cases hstep with
  | take msg fifo hpc hfifo | running r hpc hrun | fresh r hpc hmiss
  | retransmitDropped r rsp hpc hhit hak | woken r hpc hevent => rw [hpc] at hphase; exact hphase
  | notRunning r hpc hrun =>
      rw [hpc] at hphase
      exact hphase.resolve_right fun h => absurd h.run (by simp [handover, hrun])
  | notLate r hpc hready => rw [hpc] at hphase; exact ⟨hphase, hready⟩
  | lateDropped r hpc hready hak =>
      rw [hpc] at hphase
      exact ⟨⟨hphase.run, hphase.event, hphase.resting⟩, rfl⟩
  | lateSent r hpc hready hak =>
      rw [hpc] at hphase
      exact Or.inl ⟨hphase.run, hphase.event, hphase.resting⟩
  | retransmit r rsp hpc hhit hak => rw [hpc] at hphase; exact Or.inl hphase.1
  | create r hpc =>
      rw [hpc] at hphase
      exact ⟨⟨hphase.1.run, hphase.1.event, hphase.1.resting⟩, hphase.2⟩
  | store r hpc =>
      rw [hpc] at hphase
      exact ⟨rfl, ⟨hphase.1.run, hphase.1.event, hphase.1.resting⟩, hphase.2⟩
  | start r hpc =>
      rw [hpc] at hphase
      exact ⟨hphase.1, rfl, hphase.2.2, hphase.2.1.event, hphase.2.1.resting⟩
  | wakeUp r hpc =>
      rw [hpc] at hphase
      have hone : s.actionEvent + 1 = 1 := by rw [show s.actionEvent = 0 from hphase.2.event]
      exact ⟨hphase.1, Or.inr ⟨hphase.2.run, hphase.2.ready, Or.inl ⟨hone, hphase.2.resting⟩⟩⟩
  | expire r hpc | stillRunning r hpc hrun =>
      rw [hpc] at hphase
      exact ⟨hphase.1, hphase.2.imp_left fun hdone => hdone.toQuiet⟩
  | finished r hpc hrun =>
      rw [hpc] at hphase
      refine ⟨hphase.1, hphase.2.resolve_right fun h => absurd h.run ?_⟩
      simp [handover, hrun]
  | busy r hpc => rw [hpc] at hphase; exact hphase.2
  | collectDropped r hpc hak | collect r hpc hak =>
      rw [hpc] at hphase
      exact Or.inl ⟨hphase.2.run, hphase.2.event, hphase.2.resting⟩
  | _ => simp at hevent

/-- The core thread touches the action record only while the action thread has
nothing in hand. -/
theorem coherent_of_core (hphase : s.handover.Phase s.corePc)
    (hcoherent : s.handover.Coherent) (hstep : Step handler s event s')
    (hevent : event = .core ∨ event = .timeout) : s'.handover.Coherent := by
  obtain ⟨hlate, hfinish, hbegin, hhandle⟩ := hcoherent
  cases hstep with
  | lateDropped r hpc hready hak | lateSent r hpc hready hak | collectDropped r hpc hak
  | collect r hpc hak => exact ⟨nofun, hfinish, hbegin, hhandle⟩
  | create r hpc =>
      rw [hpc] at hphase
      refine ⟨fun hready => ?_, hfinish, hbegin, hhandle⟩
      exact absurd (hphase.2.symm.trans hready) Bool.false_ne_true
  | store r hpc =>
      rw [hpc] at hphase
      refine Handover.Quiet.coherent ⟨hphase.1.run, hphase.1.event, hphase.1.resting⟩ ?_
      intro hready
      exact absurd (hphase.2.symm.trans hready) Bool.false_ne_true
  | start r hpc => exact ⟨hlate, hfinish, hbegin, hhandle⟩
  | _ =>
      first
      | exact ⟨hlate, hfinish, hbegin, hhandle⟩
      | simp at hevent

/-- Every buffer a response can be sent from names the transaction of the
request it was built from. -/
theorem buffers_of_step (hcoherent : s.handover.Coherent)
    (hremembered : ∀ priority, (s.retransmit priority).rsp.Consistent)
    (hbusy : s.busyRsp.Consistent) (hstep : Step handler s event s') :
    (∀ priority, (s'.retransmit priority).rsp.Consistent) ∧ s'.busyRsp.Consistent := by
  cases hstep with
  | busy r hpc => exact ⟨hremembered, (Response.answers_rspCreate r).consistent⟩
  | actionFinishRemember rsp hpc hak =>
      refine ⟨fun priority => ?_, hbusy⟩
      by_cases hprio : priority = prio s.action.msg.msg.header.tci
      · simpa [rspRemember, hprio] using (hcoherent.finish rsp hpc).consistent
      · simpa [rspRemember, hprio] using hremembered priority
  | _ => exact ⟨hremembered, hbusy⟩

/-- The invariant is kept by every access of every thread. -/
theorem Inv.step (hinv : Inv s) (hstep : Step handler s event s') : Inv s' := by
  obtain ⟨hphase, hcoherent, hremembered, hbusy⟩ := hinv
  obtain ⟨hremembered', hbusy'⟩ := buffers_of_step hcoherent hremembered hbusy hstep
  suffices hboth : s'.handover.Phase s'.corePc ∧ s'.handover.Coherent from
    ⟨hboth.1, hboth.2, hremembered', hbusy'⟩
  cases event with
  | core =>
      exact ⟨phase_of_core hphase hstep (Or.inl rfl),
        coherent_of_core hphase hcoherent hstep (Or.inl rfl)⟩
  | timeout =>
      exact ⟨phase_of_core hphase hstep (Or.inr rfl),
        coherent_of_core hphase hcoherent hstep (Or.inr rfl)⟩
  | action =>
      obtain ⟨hadv, hpc⟩ := advance_of_action hcoherent hstep
      exact ⟨hpc ▸ hphase.advance hadv, coherent_of_action hcoherent hstep⟩
  | _ => cases hstep; exact ⟨hphase, hcoherent⟩

theorem inv_of_reachOn {guard : CoreState σ → CoreEvent σ → Prop} {mib : σ}
    (hreach : ReachOn (CoreState.step handler) guard (init mib) s) : Inv s :=
  hreach.invariant (inv_init mib) fun _ _ _ hinv _ hnext => hinv.step (step_cases hnext)

/-- A working action thread means that an action is in flight. -/
theorem Inv.inFlight_of_working (hinv : Inv s) (hworking : s.actionPc.resting = false) :
    s.handover.InFlight := by
  have hphase := hinv.phase
  have hnotQuiet : ¬ s.handover.Quiet :=
    fun h => absurd h.resting (by simp [handover, hworking])
  have hnotRaised : ¬ s.handover.Raised :=
    fun h => absurd h.resting (by simp [handover, hworking])
  have hnotDone : ¬ s.handover.Done := fun h => hnotQuiet h.toQuiet
  cases hcore : s.corePc <;> rw [hcore] at hphase
  · exact hphase.resolve_left hnotQuiet
  · exact hphase.resolve_left hnotQuiet
  · exact absurd hphase hnotQuiet
  · exact absurd hphase.1 hnotQuiet
  · exact absurd hphase.1 hnotQuiet
  · exact absurd hphase.1 hnotQuiet
  · exact absurd hphase.2.1 hnotQuiet
  · exact absurd hphase.2 hnotRaised
  · exact hphase.2.resolve_left hnotDone
  · exact hphase.2.resolve_left hnotDone
  · exact hphase.2.resolve_left hnotQuiet
  · exact absurd hphase.2 hnotDone

end CoreState

end FalconGpon.Omci
