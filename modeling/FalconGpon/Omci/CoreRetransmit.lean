/-
# Retransmitted requests

The action thread remembers the last acknowledged response of each priority, and
the core thread answers a repeated correlation identifier from there. The
question is what becomes of a copy that directly follows its original, with
requests of the other priority, late completions and stale wakeups in between.

`Remembers` is the invariant: once a request has been handed over, it is either
still executing or its response sits in the slot of its priority, unless the
slots were flushed or the response was suppressed. A copy then never reaches
the message handler, whichever of its four ways out the core thread takes.
-/

import FalconGpon.Omci.CoreDelivery

namespace FalconGpon.Omci

open FalconGpon.Lib

variable {σ : Type}

def Path.genuine : Path → Prop
  | .action | .retransmission => True
  | .running | .delayed | .busy => False

/-- The request had been handed to the action thread or was found in the
retransmit buffer. -/
def Path.served : Path → Prop
  | .action | .retransmission | .busy => True
  | .running | .delayed => False

/-- From this entry on the response to `m` is meant to be remembered. -/
def LogEntry.settles (m : Request) : LogEntry σ → Prop
  | .handled r _ => r = m
  | .sent r .retransmission _ => r = m
  | _ => False

/-- The handler ran for `m`, or `m` was answered from the retransmit buffer. -/
def Settled (m : Request) (log : List (LogEntry σ)) : Prop :=
  ∃ entry ∈ log, entry.settles m

/-- No flush after `m` was settled. -/
def NoFlushSince (m : Request) (log : List (LogEntry σ)) : Prop :=
  ∀ newer older, log = newer ++ .flushed :: older → ¬ Settled m older

/-- Every flush after `m` was settled came after the copy was answered. -/
def NoFlushBetween (m copy : Request) (log : List (LogEntry σ)) : Prop :=
  ∀ newer older, log = newer ++ .flushed :: older → Settled m older →
    ∃ path rsp, LogEntry.sent copy path rsp ∈ older

/-- The response to `m`, if published, asks to be sent. -/
def Unsuppressed (m : Request) (log : List (LogEntry σ)) : Prop :=
  ∀ rsp, LogEntry.completed m rsp ∈ log → omciMsgTypeAkGet rsp.bytes = 1

variable {m : Request} {older log : List (LogEntry σ)}

theorem NoFlushSince.suffix
    (h : NoFlushSince m log) (hsuffix : older <:+ log) : NoFlushSince m older := by
  obtain ⟨pre, rfl⟩ := hsuffix
  intro newer rest hrest
  apply h (pre ++ newer)
  rw [hrest, List.append_assoc]

theorem NoFlushBetween.suffix {m copy : Request}
    (h : NoFlushBetween m copy log) (hsuffix : older <:+ log) : NoFlushBetween m copy older := by
  obtain ⟨pre, rfl⟩ := hsuffix
  intro newer rest hrest
  apply h (pre ++ newer)
  rw [hrest, List.append_assoc]

theorem Unsuppressed.suffix
    (h : Unsuppressed m log) (hsuffix : older <:+ log) : Unsuppressed m older :=
  fun rsp hrsp => h rsp (hsuffix.mem hrsp)

/-- The request that has been handed to the action thread and is not answered
yet. -/
def CorePc.handedOver : CorePc → Option Request
  | .wait r | .check r | .busy r | .collect r => some r
  | .idle | .received _ | .delayed _ | .retransmission _ | .create _ | .store _
  | .start _ | .wakeUp _ => none

namespace CoreState

/-- The action thread is executing `m`, which has been answered busy at most. -/
structure Executing (s : CoreState σ) (m : Request) : Prop where
  inFlight : s.handover.InFlight
  msg : s.action.msg = m
  unanswered : ∀ path rsp, LogEntry.sent m path rsp ∈ s.log → ¬ path.genuine

/-- The slot of its priority holds the response to `m`, which is the one it was
or is about to be answered with, and no other action can overwrite it. -/
structure Kept (s : CoreState σ) (m : Request) (rsp : Response) : Prop where
  hit : s.rspRetransmit m.msg.header.tci = some rsp
  ak : omciMsgTypeAkGet rsp.bytes = 1
  same : ∀ path other, LogEntry.sent m path other ∈ s.log → path.genuine → other = rsp
  pending : s.corePc.handedOver = some m → s.action.rsp = rsp
  settled : Settled m s.log
  other : s.handover.InFlight → s.action.msg.prio ≠ m.prio

/-- `m` is executing or its response is kept. -/
def Remembers (s : CoreState σ) (m : Request) : Prop :=
  s.Executing m ∨ ∃ rsp, s.Kept m rsp

/-- `m` has been handed over or answered from the retransmit buffer. -/
def Reached (s : CoreState σ) (m : Request) : Prop :=
  s.corePc.handedOver = some m ∨
    ∃ path rsp, LogEntry.sent m path rsp ∈ s.log ∧ path.served

variable {handler : MsgHandler σ} {s s' : CoreState σ}

theorem rspRetransmit_rspRemember (tci : BitVec 16) (rsp : Response) :
    (s.rspRemember tci rsp).rspRetransmit tci = some rsp := by
  simp [rspRetransmit, rspRemember]

theorem rspRetransmit_rspRemember_of_ne {tci other : BitVec 16} {rsp : Response}
    (h : prio other ≠ prio tci) :
    (s.rspRemember tci rsp).rspRetransmit other = s.rspRetransmit other := by
  simp [rspRetransmit, rspRemember, h]

def FinishHandled (s : CoreState σ) : Prop :=
  ∀ rsp, s.actionPc = .finish rsp → ∃ failsafe, LogEntry.handled s.action.msg failsafe ∈ s.log

variable {event : CoreEvent σ} {m : Request}

theorem finishHandled_of_step (hinv : Inv s)
    (hfinish : s.FinishHandled) (hstep : Step handler s event s') : s'.FinishHandled := by
  intro rsp hpc'
  have hsuffix := log_suffix_of_step hstep
  have hkept (hpc : s.actionPc = .finish rsp) (hmsg : s'.action.msg = s.action.msg) :
      ∃ failsafe, LogEntry.handled s'.action.msg failsafe ∈ s'.log := by
    obtain ⟨failsafe, hhandled⟩ := hfinish rsp hpc
    exact ⟨failsafe, hmsg ▸ hsuffix.mem hhandled⟩
  have hphase := hinv.phase
  cases hstep with
  | store r hpc =>
      rw [hpc] at hphase
      have hresting : s.actionPc.resting = true := hphase.1.resting
      rw [show s.actionPc = .finish rsp from hpc'] at hresting
      cases hresting
  | actionHandle mt rsp result hpc hresult hflush =>
      exact ⟨s.failsafe, List.mem_cons_self⟩
  | actionHandleFlush mt rsp result hpc hresult hflush =>
      exact ⟨s.failsafe, List.mem_cons_self⟩
  | _ =>
      first
      | exact hkept hpc' rfl
      | cases hpc'

/-- An executing request stays in execution until its response is remembered. -/
theorem Executing.step (hexec : s.Executing m)
    (hinv : Inv s) (hfinish : s.FinishHandled) (hstep : Step handler s event s')
    (hak : Unsuppressed m s'.log) : s'.Remembers m := by
  obtain ⟨hflight, hmsg, hunanswered⟩ := hexec
  have hrun : s.action.run = true := hflight.run
  have hphase := hinv.phase
  have hcons (entry : LogEntry σ)
      (hentry : ∀ path rsp, LogEntry.sent m path rsp = entry → ¬ path.genuine) :
      ∀ path rsp, LogEntry.sent m path rsp ∈ entry :: s.log → ¬ path.genuine := by
    intro path rsp hmem
    rcases List.mem_cons.mp hmem with hhead | htail
    · exact hentry path rsp hhead
    · exact hunanswered path rsp htail
  have hquiet (hquiet : s.handover.Quiet) : s'.Remembers m :=
    absurd hquiet.run (by simp [handover, hrun])
  have haction (hevent : event = .action) (hrun' : s'.action.run = true) :
      s'.handover.InFlight := by
    subst hevent
    rcases (advance_of_action hinv.coherent hstep).1.inFlight hflight with hflight' | hdone
    · exact hflight'
    · exact absurd hdone.run (by simp [handover, hrun'])
  cases hstep with
  | flush | onu mib | take msg fifo hpc hfifo =>
      exact Or.inl ⟨hflight, hmsg, hcons _ fun _ _ h => by cases h⟩
  | running r hpc hrun | busy r hpc =>
      refine Or.inl ⟨hflight, hmsg, hcons _ ?_⟩
      rintro path rsp ⟨⟩
      exact id
  | lateDropped r hpc hready hak => rw [hpc] at hphase; exact hquiet hphase
  | lateSent r hpc hready hak => rw [hpc] at hphase; exact hquiet hphase
  | retransmit r rsp hpc hhit hak | create r hpc | store r hpc =>
      rw [hpc] at hphase; exact hquiet hphase.1
  | start r hpc => rw [hpc] at hphase; exact hquiet hphase.2.1
  | wakeUp r hpc =>
      rw [hpc] at hphase
      have hraised := hphase.2
      rcases hflight.stage with ⟨hone, -⟩ | ⟨-, hworking⟩
      · exact absurd (hraised.event.symm.trans hone) Nat.zero_ne_one
      · exact absurd (hraised.resting.symm.trans hworking) Bool.noConfusion
  | collectDropped r hpc hak => rw [hpc] at hphase; exact hquiet hphase.2.toQuiet
  | collect r hpc hak => rw [hpc] at hphase; exact hquiet hphase.2.toQuiet
  | actionFinish rsp hpc hak' => exact absurd (hak rsp (by rw [hmsg]; exact List.mem_cons_self)) hak'
  | actionFinishRemember rsp hpc hak' =>
      right
      refine ⟨rsp, ?_, hak', ?_, fun _ => rfl, ?_, fun h => absurd h.run Bool.false_ne_true⟩
      · rw [← hmsg]
        exact rspRetransmit_rspRemember _ _
      · intro path other hsent hgenuine
        exact absurd hgenuine
          (hcons (.completed s.action.msg rsp) (fun _ _ h => by cases h) path other hsent)
      · obtain ⟨failsafe, hhandled⟩ := hfinish rsp hpc
        exact ⟨_, List.mem_cons_of_mem _ hhandled, hmsg⟩
  | actionWoken hpc hevent | actionRead hpc | actionBegin mt hpc | actionSignal hpc =>
      exact Or.inl ⟨haction rfl hrun, hmsg, hunanswered⟩
  | actionHandle mt rsp result hpc hresult hflush =>
      exact Or.inl ⟨haction rfl hrun, hmsg, hcons _ fun _ _ h => by cases h⟩
  | actionHandleFlush mt rsp result hpc hresult hflush =>
      refine Or.inl ⟨haction rfl hrun, hmsg, ?_⟩
      intro path rsp hsent
      rcases List.mem_cons.mp hsent with hhead | htail
      · cases hhead
      · exact hcons .flushed (fun _ _ h => by cases h) path rsp htail
  | _ => exact Or.inl ⟨hflight, hmsg, hunanswered⟩

theorem Inv.msg_of_handedOver (hinv : Inv s)
    (hpc : s.corePc.handedOver = some m) : s.action.msg = m := by
  have hphase := hinv.phase
  cases hcore : s.corePc <;> rw [hcore] at hphase hpc <;> cases hpc <;> exact hphase.1

/-- The action thread works on the action that was in flight before. -/
theorem inFlight_before_action (hinv : Inv s) (hstep : Step handler s .action s')
    (hflight : s'.handover.InFlight) : s.handover.InFlight := by
  have hworking {pc : ActionPc} (hpc : s.actionPc = pc) (h : pc.resting = false) :
      s.handover.InFlight :=
    hinv.inFlight_of_working (by rw [hpc]; exact h)
  cases hstep with
  | actionWoken hpc hevent =>
      have hresting : s.handover.pc.resting = true := by
        show s.actionPc.resting = true
        rw [hpc]
        rfl
      have hzero : s.actionEvent - 1 = 0 := by
        rcases hflight.stage with ⟨-, hwoken⟩ | ⟨hzero, -⟩
        · cases hwoken
        · exact hzero
      have hone : s.actionEvent = 1 := by omega
      exact ⟨hflight.run, hflight.ready, Or.inl ⟨hone, hresting⟩⟩
  | actionRead hpc | actionBegin mt hpc | actionHandle mt rsp result hpc hresult hflush
  | actionHandleFlush mt rsp result hpc hresult hflush | actionFinish rsp hpc hak
  | actionFinishRemember rsp hpc hak => exact hworking hpc rfl
  | actionSignal hpc =>
      rcases hflight.stage with ⟨hone, -⟩ | ⟨-, hwait⟩
      · have hresting : s.handover.pc.resting = true := by
          show s.actionPc.resting = true
          rw [hpc]
          rfl
        exact ⟨hflight.run, hflight.ready, Or.inl ⟨hone, hresting⟩⟩
      · cases hwait

/-- A kept response survives a step that changes neither its slot nor the
answers to `m`. -/
theorem Kept.congr {rsp : Response} (hkept : s.Kept m rsp)
    (hslot : s'.rspRetransmit m.msg.header.tci = s.rspRetransmit m.msg.header.tci)
    (hsuffix : s.log <:+ s'.log)
    (hsame : ∀ path other, LogEntry.sent m path other ∈ s'.log → path.genuine →
      LogEntry.sent m path other ∈ s.log ∨ other = rsp)
    (hpending : s'.corePc.handedOver = some m → s'.action.rsp = rsp)
    (hother : s'.handover.InFlight → s'.action.msg.prio ≠ m.prio) : s'.Kept m rsp where
  hit := hslot.trans hkept.hit
  ak := hkept.ak
  same path other hsent hgenuine :=
    (hsame path other hsent hgenuine).elim
      (fun hbefore => hkept.same path other hbefore hgenuine) id
  pending := hpending
  settled := by
    obtain ⟨entry, hentry, hsettles⟩ := hkept.settled
    exact ⟨entry, hsuffix.mem hentry, hsettles⟩
  other := hother

/-- Unless the slots are flushed or another request of the same priority is
handed over, a kept response stays where it is. -/
theorem Kept.step {rsp : Response}
    (hkept : s.Kept m rsp) (hinv : Inv s) (hstep : Step handler s event s')
    (hflush : ∀ newer, s'.log ≠ newer ++ .flushed :: s.log)
    (hpreparing : s.corePc.preparing ≠ some m)
    (hother : ∀ r, s.corePc = .start r ∨ s.corePc = .wakeUp r → r.prio ≠ m.prio) :
    s'.Kept m rsp := by
  have hphase := hinv.phase
  have hsuffix := log_suffix_of_step hstep
  have hcons {entry : LogEntry σ}
      (hentry : ∀ path other, LogEntry.sent m path other = entry → path.genuine →
        other = rsp) :
      ∀ path other, LogEntry.sent m path other ∈ entry :: s.log → path.genuine →
        LogEntry.sent m path other ∈ s.log ∨ other = rsp := by
    intro path other hmem hgenuine
    rcases List.mem_cons.mp hmem with hhead | htail
    · exact Or.inr (hentry path other hhead hgenuine)
    · exact Or.inl htail
  have hquiet (hquiet : s.handover.Quiet) (hrun' : s'.action.run = s.action.run) :
      s'.handover.InFlight → s'.action.msg.prio ≠ m.prio := by
    intro hflight
    have hrun : s.action.run = true := hrun'.symm.trans hflight.run
    exact absurd hquiet.run (by simp [handover, hrun])
  have haction (hevent : event = .action) (hmsg : s'.action.msg = s.action.msg) :
      s'.handover.InFlight → s'.action.msg.prio ≠ m.prio := by
    subst hevent
    intro hflight
    rw [hmsg]
    exact hkept.other (inFlight_before_action hinv hstep hflight)
  cases hstep with
  | flush => exact absurd rfl (hflush [])
  | onu mib =>
      exact hkept.congr rfl hsuffix (hcons fun _ _ h => by cases h) hkept.pending hkept.other
  | take msg fifo hpc hfifo =>
      exact hkept.congr rfl hsuffix (hcons fun _ _ h => by cases h) (fun h => by cases h) hkept.other
  | running r hpc hrun | busy r hpc =>
      exact hkept.congr rfl hsuffix (hcons (by rintro _ _ ⟨⟩ ⟨⟩)) (fun h => by cases h) hkept.other
  | notRunning r hpc hrun | notLate r hpc hready | fresh r hpc hmiss
  | retransmitDropped r rsp' hpc hhit hak =>
      exact hkept.congr rfl hsuffix (fun _ _ h _ => Or.inl h) (fun h => by cases h) hkept.other
  | lateDropped r hpc hready hak =>
      rw [hpc] at hphase
      exact hkept.congr rfl hsuffix (fun _ _ h _ => Or.inl h) (fun h => by cases h) (hquiet hphase rfl)
  | lateSent r hpc hready hak =>
      rw [hpc] at hphase
      exact hkept.congr rfl hsuffix (hcons (by rintro _ _ ⟨⟩ ⟨⟩)) (fun h => by cases h) (hquiet hphase rfl)
  | retransmit r rsp' hpc hhit hak =>
      refine hkept.congr rfl hsuffix (hcons ?_) (fun h => by cases h) hkept.other
      rintro _ _ ⟨⟩ _
      exact absurd (by rw [hpc]; rfl) hpreparing
  | create r hpc | store r hpc =>
      rw [hpc] at hphase
      exact hkept.congr rfl hsuffix (fun _ _ h _ => Or.inl h) (fun h => by cases h) (hquiet hphase.1 rfl)
  | start r hpc =>
      rw [hpc] at hphase
      refine hkept.congr rfl hsuffix (fun _ _ h _ => Or.inl h) (fun h => by cases h) fun _ => ?_
      rw [show s.action.msg = r from hphase.1]
      exact hother r (Or.inl hpc)
  | wakeUp r hpc =>
      rw [hpc] at hphase
      refine hkept.congr rfl hsuffix (fun _ _ h _ => Or.inl h) ?_ fun _ => ?_
      · intro hr
        have hsame : r = m := Option.some.inj hr
        exact absurd (by rw [hpc, hsame]; rfl) hpreparing
      · rw [show s.action.msg = r from hphase.1]
        exact hother r (Or.inr hpc)
  | woken r hpc hevent | expire r hpc | stillRunning r hpc hrun | finished r hpc hrun =>
      refine hkept.congr rfl hsuffix (fun _ _ h _ => Or.inl h) ?_ hkept.other
      exact fun hr => hkept.pending (by rw [hpc]; exact hr)
  | collectDropped r hpc hak =>
      rw [hpc] at hphase
      exact hkept.congr rfl hsuffix (fun _ _ h _ => Or.inl h) (fun h => by cases h)
        (hquiet hphase.2.toQuiet rfl)
  | collect r hpc hak =>
      rw [hpc] at hphase
      refine hkept.congr rfl hsuffix (hcons ?_) (fun h => by cases h) (hquiet hphase.2.toQuiet rfl)
      rintro _ _ ⟨⟩ _
      exact hkept.pending (by rw [hpc]; rfl)
  | actionWoken hpc hevent | actionRead hpc | actionBegin mt hpc | actionSignal hpc =>
      exact hkept.congr rfl hsuffix (fun _ _ h _ => Or.inl h) hkept.pending (haction rfl rfl)
  | actionHandle mt rsp' result hpc hresult hflush' =>
      exact hkept.congr rfl hsuffix (hcons fun _ _ h => by cases h) hkept.pending
        (haction rfl rfl)
  | actionHandleFlush mt rsp' result hpc hresult hflush' => exact absurd rfl (hflush [_])
  | actionFinish rsp' hpc hak =>
      have hflight := hinv.inFlight_of_working (by rw [hpc]; rfl)
      refine hkept.congr rfl hsuffix (hcons fun _ _ h => by cases h) ?_ (haction rfl rfl)
      intro hcore
      exact absurd (congrArg Request.prio (hinv.msg_of_handedOver hcore)) (hkept.other hflight)
  | actionFinishRemember rsp' hpc hak =>
      have hflight := hinv.inFlight_of_working (by rw [hpc]; rfl)
      refine hkept.congr ?_ hsuffix (hcons fun _ _ h => by cases h) ?_ (haction rfl rfl)
      · exact rspRetransmit_rspRemember_of_ne (hkept.other hflight).symm
      · intro hcore
        exact absurd (congrArg Request.prio (hinv.msg_of_handedOver hcore)) (hkept.other hflight)
  | _ => exact hkept.congr rfl hsuffix (fun _ _ h _ => Or.inl h) hkept.pending hkept.other

/-- `m` stays remembered across a step that neither flushes the slots after `m`
was settled nor hands over another request of its priority. -/
theorem Remembers.step (hremembers : s.Remembers m)
    (hinv : Inv s) (hfinish : s.FinishHandled) (hstep : Step handler s event s')
    (hflush : ∀ newer, s'.log = newer ++ .flushed :: s.log → ¬ Settled m s.log)
    (hak : Unsuppressed m s'.log) (hpreparing : s.corePc.preparing ≠ some m)
    (hother : ∀ r, s.corePc = .start r ∨ s.corePc = .wakeUp r → r.prio ≠ m.prio) :
    s'.Remembers m := by
  rcases hremembers with hexec | ⟨rsp, hkept⟩
  · exact hexec.step hinv hfinish hstep hak
  · have hflush' : ∀ newer, s'.log ≠ newer ++ .flushed :: s.log :=
      fun newer hlog => hflush newer hlog hkept.settled
    exact Or.inr ⟨rsp, hkept.step hinv hstep hflush' hpreparing hother⟩

/-- A request becomes reached when it is handed over or answered from the
retransmit buffer, and is remembered from then on. -/
theorem remembers_of_reached (hinv : Inv s) (hchron : Chronicle s)
    (hstep : Step handler s event s') (hbefore : ¬ s.Reached m)
    (hafter : s'.Reached m) : s'.Remembers m := by
  have hphase := hinv.phase
  have hkeep (hreached : s.Reached m) : s'.Remembers m := absurd hreached hbefore
  cases hstep with
  | wakeUp r hpc =>
      rcases hafter with hpc' | hsent
      · have hr : r = m := Option.some.inj hpc'
        subst hr
        rw [hpc] at hphase
        obtain ⟨hmsg, hraised⟩ := hphase
        have hone : s.actionEvent + 1 = 1 := by rw [show s.actionEvent = 0 from hraised.event]
        refine Or.inl ⟨⟨hraised.run, hraised.ready, Or.inl ⟨hone, hraised.resting⟩⟩, hmsg, ?_⟩
        intro path rsp hsent _
        exact hchron.unanswered r (by rw [hpc]; rfl) path rsp hsent
      · exact hkeep (Or.inr hsent)
  | retransmit r rsp hpc hhit hak =>
      rcases hafter with hpc' | ⟨path, other, hsent, hserved⟩
      · cases hpc'
      · rcases List.mem_cons.mp hsent with hhead | htail
        · cases hhead
          rw [hpc] at hphase
          refine Or.inr ⟨rsp, hhit, omciMsgTypeAkGet_eq_one hak, ?_, nofun,
            ⟨_, List.mem_cons_self, rfl⟩, ?_⟩
          · intro path other hsent' _
            rcases List.mem_cons.mp hsent' with hhead | htail
            · cases hhead
              rfl
            · exact absurd htail (hchron.unanswered m (by rw [hpc]; rfl) path other)
          · intro hflight
            exact absurd (hphase.1.run.symm.trans hflight.run) Bool.false_ne_true
        · exact hkeep (Or.inr ⟨path, other, htail, hserved⟩)
  | running r hpc | lateSent r hpc =>
      rcases hafter with hpc' | ⟨path, other, hsent, hserved⟩
      · cases hpc'
      · rcases List.mem_cons.mp hsent with hhead | htail
        · cases hhead
          exact hserved.elim
        · exact hkeep (Or.inr ⟨path, other, htail, hserved⟩)
  | busy r hpc | collect r hpc =>
      rcases hafter with hpc' | ⟨path, other, hsent, hserved⟩
      · cases hpc'
      · rcases List.mem_cons.mp hsent with hhead | htail
        · cases hhead
          exact hkeep (Or.inl (by rw [hpc]; rfl))
        · exact hkeep (Or.inr ⟨path, other, htail, hserved⟩)
  | actionHandleFlush mt rsp result hpc hresult hflush =>
      rcases hafter with hpc' | ⟨path, other, hsent, hserved⟩
      · exact hkeep (Or.inl hpc')
      · have hbefore : LogEntry.sent m path other ∈ s.log := by simpa using hsent
        exact hkeep (Or.inr ⟨path, other, hbefore, hserved⟩)
  | _ =>
      rcases hafter with hpc' | ⟨path, other, hsent, hserved⟩
      · exact hkeep (Or.inl (by simp_all [CorePc.handedOver, retransmitFlush, rspRemember]))
      · have hbefore : LogEntry.sent m path other ∈ s.log := by
          simpa [retransmitFlush] using hsent
        exact hkeep (Or.inr ⟨path, other, hbefore, hserved⟩)

theorem Reached.known (hreached : s.Reached m) (hchron : Chronicle s) :
    m.ordinal ≤ s.takenCount := by
  rcases hreached with hpc | ⟨path, rsp, hsent, -⟩
  · have hcurrent : s.corePc.request = some m := by
      cases hcore : s.corePc <;> rw [hcore] at hpc <;> cases hpc <;> rfl
    exact (hchron.current m hcurrent).1.le
  · exact hchron.logged _ hsent m rfl

theorem Reached.not_preparing (hreached : s.Reached m)
    (hchron : Chronicle s) : s.corePc.preparing ≠ some m := by
  intro hpreparing
  rcases hreached with hpc | ⟨path, rsp, hsent, -⟩
  · cases hcore : s.corePc <;> rw [hcore] at hpc hpreparing <;> cases hpc
    all_goals cases hpreparing
  · exact hchron.unanswered m (CorePc.request_of_preparing hpreparing) path rsp hsent

theorem lastTaken_of_step (hstep : Step handler s event s') (hknown : m.ordinal ≤ s.takenCount)
    {priority : Bool}
    (hlast : lastTaken priority s'.log = some m) : lastTaken priority s.log = some m := by
  cases hstep with
  | take msg fifo hpc hfifo =>
      rw [lastTaken] at hlast
      split at hlast
      · have hnew : s.requestOf msg = m := Option.some.inj hlast
        have hordinal : m.ordinal = s.takenCount + 1 := by rw [← hnew]; rfl
        omega
      · exact hlast
  | _ => simpa [lastTaken, retransmitFlush] using hlast

def LastRemembered (s : CoreState σ) : Prop :=
  ∀ m, lastTaken m.prio s.log = some m → s.Reached m → NoFlushSince m s.log →
    Unsuppressed m s.log → s.Remembers m

theorem lastRemembered_of_step (hinv : Inv s) (hchron : Chronicle s)
    (hfinish : s.FinishHandled) (hlast : s.LastRemembered)
    (hstep : Step handler s event s') : s'.LastRemembered := by
  intro m hm hreached hflush hak
  have hsuffix := log_suffix_of_step hstep
  by_cases hbefore : s.Reached m
  · have hm' := lastTaken_of_step hstep (hbefore.known hchron) hm
    have hpreparing := hbefore.not_preparing hchron
    refine (hlast m hm' hbefore (hflush.suffix hsuffix) (hak.suffix hsuffix)).step
      hinv hfinish hstep (fun newer hlog => hflush newer _ hlog) hak hpreparing ?_
    intro r hr hprio
    -- a request about to be handed over is the last one of its priority
    have hcurrent : s.corePc.request = some r := by rcases hr with hr | hr <;> rw [hr] <;> rfl
    have hr' := (hchron.current r hcurrent).2
    rw [hprio, hm'] at hr'
    have hsame : m = r := Option.some.inj hr'
    exact hpreparing (by rcases hr with hr | hr <;> rw [hr, hsame] <;> rfl)
  · exact remembers_of_reached hinv hchron hstep hbefore hreached

/-! ## The copy -/

/-- `copy` is taken directly after `m` on the same priority and repeats it, and
`m` had been answered with its own response or, after its timeout, busy. -/
structure Follows (copy m : Request) (before : List (LogEntry σ)) : Prop where
  direct : lastTaken copy.prio before = some m
  msg : copy.msg = m.msg
  served : ∃ path rsp, LogEntry.sent m path rsp ∈ before ∧ path.served

/-- The copy is still to meet one of its ways out. -/
structure Waits (s : CoreState σ) (copy m : Request) (calm : Prop) : Prop where
  pc : s.corePc = .received copy ∨ s.corePc = .delayed copy ∨
    s.corePc = .retransmission copy
  remembers : s.Remembers m
  calm : calm → s.handover.Quiet ∧ s.action.ready = false

/-- The copy has been dismissed without running the handler. -/
structure Spared (s : CoreState σ) (copy m : Request) (calm : Prop) : Prop where
  gone : ¬ s.OnItsWay copy
  unhandled : s.handledTimes copy = 0
  past : ∀ r, s.corePc.request = some r → copy.ordinal < r.ordinal
  same : calm → ∀ path rsp path' rsp', LogEntry.sent copy path rsp ∈ s.log →
    LogEntry.sent m path' rsp' ∈ s.log → path'.genuine → rsp = rsp'

theorem sent_of_step (hstep : Step handler s event s') {r : Request}
    {path : Path} {rsp : Response} (hsent : LogEntry.sent r path rsp ∈ s'.log) :
    LogEntry.sent r path rsp ∈ s.log ∨ s.corePc.request = some r := by
  cases hstep <;> simp_all [CorePc.request, retransmitFlush] <;> grind

theorem request_of_step (hstep : Step handler s event s')
    {r : Request} (hpc : s'.corePc.request = some r) :
    s.corePc.request = some r ∨ s.takenCount < r.ordinal := by
  cases hstep <;> simp_all [CorePc.request, retransmitFlush, rspRemember, requestOf]
  grind

private theorem exists_append_of_cons {entry other : LogEntry σ}
    {log post before : List (LogEntry σ)} (hlog : other :: log = post ++ entry :: before)
    (hne : other ≠ entry) : ∃ post', log = post' ++ entry :: before := by
  cases post with
  | nil => exact absurd (List.cons.inj hlog).1 hne
  | cons _ post => exact ⟨post, (List.cons.inj hlog).2⟩

/-- A taken entry is old, or it has just been written. -/
theorem taken_of_step (hstep : Step handler s event s')
    {post before : List (LogEntry σ)} {copy : Request} {executing late : Bool}
    (hlog : s'.log = post ++ .taken copy executing late :: before) :
    (∃ post', s.log = post' ++ .taken copy executing late :: before) ∨
      s.log = before ∧ s'.corePc = .received copy ∧ s.corePc = .idle ∧
        s.takenCount < copy.ordinal ∧ s'.handover = s.handover ∧
        executing = s.action.run ∧ late = s.action.ready := by
  cases hstep with
  | take msg fifo hpc hfifo =>
      cases post with
      | nil =>
          obtain ⟨hhead, htail⟩ := List.cons.inj hlog
          cases hhead
          exact Or.inr ⟨htail, rfl, hpc, Nat.lt_succ_self _, rfl, rfl, rfl⟩
      | cons _ post => exact Or.inl ⟨post, (List.cons.inj hlog).2⟩
  | actionHandleFlush mt rsp result hpc hresult hflush =>
      obtain ⟨post', hlog'⟩ := exists_append_of_cons hlog nofun
      exact Or.inl (exists_append_of_cons hlog' nofun)
  | _ =>
      first
      | exact Or.inl ⟨post, hlog⟩
      | exact Or.inl (exists_append_of_cons hlog nofun)

variable {copy m : Request} {calm : Prop}

/-- A spared copy stays spared. -/
theorem Spared.step (hspared : s.Spared copy m calm) (hinv : Inv s) (hchron : Chronicle s)
    (hstep : Step handler s event s') (hcopy : copy.ordinal ≤ s.takenCount)
    (hm : m.ordinal < copy.ordinal) : s'.Spared copy m calm := by
  obtain ⟨hgone, hunhandled, hpast, hsame⟩ := hspared
  have hboth : ¬ s'.OnItsWay copy ∧ s'.handledTimes copy = 0 := by
    rcases delivery_of_step hinv hchron hstep hcopy with
      ⟨hway, htimes⟩ | ⟨hway, -⟩ | ⟨hway, -⟩
    · exact ⟨hway.not.mpr hgone, htimes.trans hunhandled⟩
    · exact absurd hway hgone
    · exact absurd hway hgone
  refine ⟨hboth.1, hboth.2, ?_, ?_⟩
  · intro r hr
    rcases request_of_step hstep hr with hbefore | hnew
    · exact hpast r hbefore
    · exact lt_of_le_of_lt hcopy hnew
  · intro hcalm path rsp path' rsp' hsent hsent' hgenuine
    have hold : LogEntry.sent copy path rsp ∈ s.log :=
      (sent_of_step hstep hsent).resolve_right fun h => lt_irrefl _ (hpast copy h)
    have hold' : LogEntry.sent m path' rsp' ∈ s.log :=
      (sent_of_step hstep hsent').resolve_right fun h => lt_asymm hm (hpast m h)
    exact hsame hcalm path rsp path' rsp' hold hold' hgenuine

theorem idle_of_dismisses (hstep : Step handler s .core s') {r : Request}
    (hdismiss : s.Dismisses r) : s'.corePc = .idle := by
  cases hstep <;> simp_all [Dismisses]

/-- A copy that is sent a response instead of being handed over is spared. -/
theorem spared_of_dismisses (hchron : Chronicle s)
    (hstep : Step handler s .core s') (hdismiss : s.Dismisses copy) (hm : m.ordinal < copy.ordinal)
    (hsame : calm → ∀ path rsp, .sent copy path rsp ∈ s'.log → ∀ path' rsp',
      LogEntry.sent m path' rsp' ∈ s.log → path'.genuine → rsp = rsp') : s'.Spared copy m calm := by
  obtain ⟨hzero, hgone⟩ := lost_of_dismisses hchron hstep hdismiss
  have hcurrent : s.corePc.request = some copy := by
    rcases hdismiss with ⟨hpc, -⟩ | ⟨hpc, -⟩ | ⟨hpc, -⟩ <;> rw [hpc] <;> rfl
  refine ⟨hgone, hzero, ?_, ?_⟩
  · intro r hr
    rw [idle_of_dismisses hstep hdismiss] at hr
    cases hr
  · intro hcalm path rsp path' rsp' hsent hsent' hgenuine
    have hold' : LogEntry.sent m path' rsp' ∈ s.log :=
      (sent_of_step hstep hsent').resolve_right fun h => by
        have hsame : copy = m := Option.some.inj (hcurrent.symm.trans h)
        exact lt_irrefl _ (hsame ▸ hm)
    exact hsame hcalm path rsp hsent path' rsp' hold' hgenuine

/-- While the copy waits, `m` stays remembered. -/
theorem Waits.remembers_of_step (hwaits : s.Waits copy m calm) (hinv : Inv s) (hchron : Chronicle s)
    (hfinish : s.FinishHandled) (hstep : Step handler s event s')
    (hm : m.ordinal < copy.ordinal) (hflush : NoFlushBetween m copy s'.log)
    (hak : Unsuppressed m s'.log) : s'.Remembers m := by
  have hcurrent : s.corePc.request = some copy := by
    rcases hwaits.pc with hpc | hpc | hpc <;> rw [hpc] <;> rfl
  refine hwaits.remembers.step hinv hfinish hstep ?_ hak ?_ ?_
  · intro newer hlog hsettled
    obtain ⟨path, rsp, hsent⟩ := hflush newer s.log hlog hsettled
    exact hchron.unanswered copy hcurrent path rsp hsent
  · intro hpreparing
    have hsame : copy = m :=
      Option.some.inj (hcurrent.symm.trans (CorePc.request_of_preparing hpreparing))
    exact lt_irrefl _ (hsame ▸ hm)
  · intro r hr
    rcases hwaits.pc with hpc | hpc | hpc <;> rw [hpc] at hr <;> simp at hr

/-- The copy waits on, or meets a way out that spares it. -/
theorem Waits.step (hwaits : s.Waits copy m calm) (hinv : Inv s) (hchron : Chronicle s)
    (hfinish : s.FinishHandled) (hstep : Step handler s event s')
    (hm : m.ordinal < copy.ordinal) (hmsg : copy.msg = m.msg)
    (hflush : NoFlushBetween m copy s'.log) (hak : Unsuppressed m s'.log) :
    s'.Waits copy m calm ∨ s'.Spared copy m calm := by
  have hremembers := hwaits.remembers_of_step hinv hchron hfinish hstep hm hflush hak
  obtain ⟨hpc, hbefore, hcalm⟩ := hwaits
  cases event with
  | arrive msg | fifoClear | failsafeEnable enable | onu mib | retransmitFlush =>
      cases hstep; exact Or.inl ⟨hpc, hremembers, hcalm⟩
  | action =>
      obtain ⟨hadv, hpc'⟩ := advance_of_action hinv.coherent hstep
      refine Or.inl ⟨hpc' ▸ hpc, hremembers, fun h => ?_⟩
      obtain ⟨hquiet, haction⟩ := hadv.quiet (hcalm h).1
      have hready : s'.action.ready = s.action.ready := congrArg ActionHandler.ready haction
      exact ⟨hquiet, hready.trans (hcalm h).2⟩
  | timeout => 
      cases hstep with
      | expire r hpc' => simp [hpc'] at hpc
  | core =>
      have hphase := hinv.phase
      have hcurrent : s.corePc.request = some copy := by
        rcases hpc with hpc | hpc | hpc <;> rw [hpc] <;> rfl
      have hunsent := hchron.unanswered copy hcurrent
      have hspared := @spared_of_dismisses σ handler s s' copy m calm hchron hstep
      cases hstep with
      | running r hpc' hrun =>
          have hr : r = copy := by simpa [hpc', CorePc.request] using hcurrent
          subst hr
          refine Or.inr (hspared (Or.inl ⟨hpc', hrun⟩) hm ?_)
          intro hc
          exact absurd (hcalm hc).1.run (by simp [handover, hrun])
      | notRunning r hpc' hrun =>
          have hr : r = copy := by simpa [hpc', CorePc.request] using hcurrent
          exact Or.inl ⟨Or.inr (Or.inl (by rw [hr])), hremembers, hcalm⟩
      | notLate r hpc' hready =>
          have hr : r = copy := by simpa [hpc', CorePc.request] using hcurrent
          exact Or.inl ⟨Or.inr (Or.inr (by rw [hr])), hremembers, hcalm⟩
      | lateDropped r hpc' hready hak' =>
          have hr : r = copy := by simpa [hpc', CorePc.request] using hcurrent
          refine Or.inl ⟨Or.inr (Or.inr (by rw [hr])), hremembers, fun hc => ?_⟩
          exact absurd ((hcalm hc).2.symm.trans hready) Bool.false_ne_true
      | lateSent r hpc' hready hak' =>
          have hr : r = copy := by simpa [hpc', CorePc.request] using hcurrent
          subst hr
          refine Or.inr (hspared (Or.inr (Or.inl ⟨hpc', hready, hak'⟩)) hm ?_)
          intro hc
          exact absurd ((hcalm hc).2.symm.trans hready) Bool.false_ne_true
      | fresh r hpc' hmiss =>
          have hr : r = copy := by simpa [hpc', CorePc.request] using hcurrent
          subst hr
          rw [hpc'] at hphase
          rcases hbefore with hexec | ⟨rsp, hkept⟩
          · exact absurd (hphase.1.run.symm.trans hexec.inFlight.run) Bool.false_ne_true
          · rw [hmsg, hkept.hit] at hmiss
            cases hmiss
      | retransmitDropped r rsp' hpc' hhit hak' =>
          have hr : r = copy := by simpa [hpc', CorePc.request] using hcurrent
          subst hr
          rw [hpc'] at hphase
          rcases hbefore with hexec | ⟨rsp, hkept⟩
          · exact absurd (hphase.1.run.symm.trans hexec.inFlight.run) Bool.false_ne_true
          · rw [hmsg, hkept.hit] at hhit
            cases hhit
            exact absurd (hak'.symm.trans hkept.ak) (by decide)
      | retransmit r rsp' hpc' hhit hak' =>
          have hr : r = copy := by simpa [hpc', CorePc.request] using hcurrent
          subst hr
          rw [hpc'] at hphase
          refine Or.inr (hspared (Or.inr (Or.inr ⟨hpc', rsp', hhit, hak'⟩)) hm ?_)
          intro _ path rsp hsent path' other hsent' hgenuine
          have hrsp : rsp = rsp' := by
            rcases List.mem_cons.mp hsent with hhead | htail
            · cases hhead
              rfl
            · exact absurd htail (hunsent path rsp)
          rcases hbefore with hexec | ⟨kept, hkept⟩
          · exact absurd (hphase.1.run.symm.trans hexec.inFlight.run) Bool.false_ne_true
          · rw [hmsg, hkept.hit] at hhit
            cases hhit
            exact hrsp.trans (hkept.same path' other hsent' hgenuine).symm
      | _ => simp_all

/-- Every copy the log mentions waits for a way out or has been spared. -/
def CopiesSpared (s : CoreState σ) : Prop :=
  ∀ post before copy m executing late,
    s.log = post ++ .taken copy executing late :: before → Follows copy m before →
    NoFlushBetween m copy s.log → Unsuppressed m s.log →
    m.ordinal < copy.ordinal ∧
      (s.Waits copy m (executing = false ∧ late = false) ∨
        s.Spared copy m (executing = false ∧ late = false))

theorem copiesSpared_of_step (hinv : Inv s) (hchron : Chronicle s)
    (hfinish : s.FinishHandled) (hlast : s.LastRemembered) (hcopies : s.CopiesSpared)
    (hstep : Step handler s event s') : s'.CopiesSpared := by
  intro post before copy m executing late hlog hfollows hflush hak
  have hsuffix := log_suffix_of_step hstep
  rcases taken_of_step hstep hlog with
    ⟨post', hlog'⟩ | ⟨hbefore, hpc', hpc, hnew, hhandover, hexecuting, hlate⟩
  · obtain ⟨hm, hcase⟩ := hcopies post' before copy m executing late hlog' hfollows
      (hflush.suffix hsuffix) (hak.suffix hsuffix)
    have hcopy : copy.ordinal ≤ s.takenCount := by
      apply hchron.logged (.taken copy executing late) _ copy rfl
      rw [hlog']
      exact List.mem_append_right _ List.mem_cons_self
    refine ⟨hm, ?_⟩
    rcases hcase with hwaits | hspared
    · exact hwaits.step hinv hchron hfinish hstep hm hfollows.msg hflush hak
    · exact Or.inr (hspared.step hinv hchron hstep hcopy hm)
  · subst hbefore
    have hreached : s.Reached m := Or.inr hfollows.served
    have hm : m.ordinal < copy.ordinal := lt_of_le_of_lt (hreached.known hchron) hnew
    have hprio : copy.prio = m.prio := congrArg (fun msg => prio msg.header.tci) hfollows.msg
    have hunsent : ∀ path rsp, LogEntry.sent copy path rsp ∉ s.log := by
      intro path rsp hsent
      exact absurd (hchron.logged _ hsent copy rfl) (not_le_of_gt hnew)
    have hsince : NoFlushSince m s.log := by
      intro newer older hsplit hsettled
      obtain ⟨path, rsp, hsent⟩ := hflush.suffix hsuffix newer older hsplit hsettled
      apply hunsent path rsp
      rw [hsplit]
      exact List.mem_append_right _ (List.mem_cons_of_mem _ hsent)
    have hremembers := hlast m (hprio ▸ hfollows.direct) hreached hsince (hak.suffix hsuffix)
    refine ⟨hm, Or.inl ⟨Or.inl hpc', ?_, ?_⟩⟩
    · apply hremembers.step hinv hfinish hstep _ hak (hreached.not_preparing hchron)
      · intro r hr
        rcases hr with hr | hr <;> rw [hpc] at hr <;> cases hr
      · intro newer hsplit hsettled
        obtain ⟨path, rsp, hsent⟩ := hflush newer s.log hsplit hsettled
        exact hunsent path rsp hsent
    · rintro ⟨hnotExecuting, hnotLate⟩
      have hphase := hinv.phase
      rw [hpc] at hphase
      have hrun : s.action.run = false := hexecuting.symm.trans hnotExecuting
      have hquiet : s.handover.Quiet :=
        hphase.resolve_right fun h => absurd h.run (by simp [handover, hrun])
      have haction : s'.action = s.action := congrArg Handover.action hhandover
      refine ⟨hhandover ▸ hquiet, ?_⟩
      rw [haction]
      exact hlate.symm.trans hnotLate

theorem copiesSpared_of_reachOn {guard : CoreState σ → CoreEvent σ → Prop} {mib : σ}
    (hreach : ReachOn (CoreState.step handler) guard (init mib) s) : s.CopiesSpared := by
  suffices hall : s.FinishHandled ∧ s.LastRemembered ∧ s.CopiesSpared from hall.2.2
  apply hreach.invariant_of
    (fun _ hstate => And.intro (inv_of_reachOn hstate) (chronicle_of_reachOn hstate))
  · refine ⟨(fun _ hpc => by cases hpc), fun m hm => ?_,
      fun post before copy m executing late hlog => ?_⟩
    · simp [init, lastTaken] at hm
    · simp [init] at hlog
  · rintro before event after ⟨hinv, hchron⟩ ⟨hfinish, hlast, hcopies⟩ _ hnext
    have hstep := step_cases hnext
    exact ⟨finishHandled_of_step hinv hfinish hstep,
      lastRemembered_of_step hinv hchron hfinish hlast hstep,
      copiesSpared_of_step hinv hchron hfinish hlast hcopies hstep⟩

/-- At most once: the handler does not run for a copy that directly follows its
original, and the MIB is what the rest of the log leads to. When the copy is
taken with no action executing and no late response waiting, and the original
had been answered with its own response, the copy is answered with the same. -/
theorem copy_spared {mib : σ} (hreach : Reach (CoreState.step handler) (init mib) s)
    {post before : List (LogEntry σ)} {copy m : Request} {executing late : Bool}
    (hlog : s.log = post ++ .taken copy executing late :: before)
    (hfollows : Follows copy m before) (hflush : NoFlushBetween m copy s.log)
    (hak : Unsuppressed m s.log) :
    s.handledTimes copy = 0 ∧
      s.mib = mibReplay handler mib
        (s.log.filter fun entry => decide (entry.request ≠ some copy)) ∧
      (executing = false → late = false → ∀ path rsp path' rsp',
        LogEntry.sent copy path rsp ∈ s.log → LogEntry.sent m path' rsp' ∈ s.log →
          path'.genuine → rsp = rsp') := by
  have hchron := chronicle_of_reachOn hreach
  obtain ⟨hm, hcase⟩ := copiesSpared_of_reachOn hreach post before copy m executing late
    hlog hfollows hflush hak
  have htimes : s.handledTimes copy = 0 := by
    rcases hcase with hwaits | hspared
    · apply handledTimes_of_preparing hchron
      rcases hwaits.pc with hpc | hpc | hpc <;> rw [hpc] <;> rfl
    · exact hspared.unhandled
  refine ⟨htimes, ?_, ?_⟩
  · rw [mibReplay_filter]
    · exact mib_eq_mibReplay hreach
    · intro failsafe hhandled
      have hpos := List.countP_eq_zero.mp htimes _ hhandled
      simp [LogEntry.handles] at hpos
  · intro hexecuting hlate path rsp path' rsp' hsent hsent' hgenuine
    rcases hcase with hwaits | hspared
    · have hcurrent : s.corePc.request = some copy := by
        rcases hwaits.pc with hpc | hpc | hpc <;> rw [hpc] <;> rfl
      exact absurd hsent (hchron.unanswered copy hcurrent path rsp)
    · exact hspared.same ⟨hexecuting, hlate⟩ path rsp path' rsp' hsent hsent' hgenuine

/-- The first request of `lateAnswerRun` and of the runs below, and its copy. -/
def originalRequest : Request where
  msg := getRequest 1 256 0
  ordinal := 1
  copy := false

def copyRequest : Request where
  msg := getRequest 1 256 0
  ordinal := 2
  copy := true

/-- What `echoHandler` answers to the original. -/
def echoResponse : Response where
  bytes := { rspCreate originalRequest.msg with contents := originalRequest.msg.contents }
  computedFor := some originalRequest

def busyResponse : Response where
  bytes := rspCreate originalRequest.msg
  computedFor := some originalRequest

def timelyCopyRun : List (CoreEvent Unit) :=
  handOver (getRequest 1 256 0) ++ List.replicate 6 .action ++ List.replicate 3 .core ++
    .arrive (getRequest 1 256 0) :: List.replicate 4 .core

def lateCopyRun : List (CoreEvent Unit) :=
  handOver (getRequest 1 256 0) ++ [.timeout, .core] ++ List.replicate 5 .action ++
    .arrive (getRequest 1 256 0) :: List.replicate 3 .core

/-- A copy of a request answered in time gets the same response. -/
theorem copy_spared_timelyCopyRun :
    ∃ s, Reach (CoreState.step echoHandler) (init ()) s ∧
      LogEntry.sent copyRequest .retransmission echoResponse ∈ s.log ∧
      s.handledTimes copyRequest = 0 := by
  have hrun : (execOn (CoreState.step echoHandler) (fun _ _ => True) (init ())
      timelyCopyRun).any (fun s => decide (s.log =
        [.sent copyRequest .retransmission echoResponse] ++
          .taken copyRequest false false ::
            [.sent originalRequest .action echoResponse,
              .completed originalRequest echoResponse, .handled originalRequest false,
              .taken originalRequest false false])) = true := by
    decide +kernel
  obtain ⟨s, hreach, hlog⟩ := exists_reachOn_of_execOn hrun
  refine ⟨s, hreach, by rw [hlog]; exact List.mem_cons_self, ?_⟩
  refine (copy_spared hreach hlog ⟨rfl, rfl, ?_⟩ ?_ ?_).1
  · exact ⟨.action, echoResponse, List.mem_cons_self, trivial⟩
  · intro newer older hsplit
    have hflushed : LogEntry.flushed ∈ s.log := by rw [hsplit]; simp
    simp [hlog] at hflushed
  · intro rsp hcompleted
    have hrsp : rsp = echoResponse := by simpa [hlog, originalRequest, copyRequest] using hcompleted
    subst hrsp
    decide +kernel

/-- A copy of a request that was answered busy gets another response: the one
computed late. -/
theorem copy_answer_differs :
    ∃ s, Reach (CoreState.step echoHandler) (init ()) s ∧ LogEntry.flushed ∉ s.log ∧
      ∃ post before copy m executing late,
        s.log = post ++ .taken copy executing late :: before ∧
          lastTaken copy.prio before = some m ∧ copy.msg = m.msg ∧
          ∃ path rsp path' rsp', LogEntry.sent m path rsp ∈ before ∧
            LogEntry.sent copy path' rsp' ∈ s.log ∧ rsp'.bytes ≠ rsp.bytes := by
  have hrun : (execOn (CoreState.step echoHandler) (fun _ _ => True) (init ())
      lateCopyRun).any (fun s => decide (s.log =
        [.sent copyRequest .delayed echoResponse] ++
          .taken copyRequest false true ::
            [.completed originalRequest echoResponse, .handled originalRequest false,
              .sent originalRequest .busy busyResponse,
              .taken originalRequest false false])) = true := by
    decide +kernel
  obtain ⟨s, hreach, hlog⟩ := exists_reachOn_of_execOn hrun
  refine ⟨s, hreach, by simp [hlog], _, _, _, _, _, _, hlog, rfl, rfl,
    .busy, busyResponse, .delayed, echoResponse, by simp, by simp [hlog], ?_⟩
  decide +kernel

end CoreState

end FalconGpon.Omci
