/-
# Response pairing

A response pairs with a request when it names the request's transaction and was
built from that very message (a retransmission is built from an earlier copy of
it). The core thread has three ways to send a response that does not pair: the
static busy response goes out unchanged while an action is running, a late
response goes to whatever request is taken next, and the retransmit buffer is
looked up by the correlation identifier alone. `KeepsPairing` forbids these
three situations, and the runs that keep clear of them are exactly the runs
whose responses all pair.
-/

import FalconGpon.Omci.CoreInvariant

namespace FalconGpon.Omci

open FalconGpon.Lib

variable {σ : Type}

def Response.IsFor (rsp : Response) (request : Request) : Prop :=
  rsp.computedFor.map (fun origin => origin.msg) = some request.msg

/-- The response names the transaction of the request and was built from its
message. -/
def Response.Pairs (rsp : Response) (request : Request) : Prop :=
  SameTransaction request.msg rsp.bytes ∧ rsp.IsFor request

instance (rsp : Response) (request : Request) : Decidable (rsp.IsFor request) :=
  inferInstanceAs (Decidable (_ = _))

instance (rsp : Response) (request : Request) : Decidable (rsp.Pairs request) :=
  inferInstanceAs (Decidable (_ ∧ _))

theorem Response.Answers.pairs {rsp : Response} {origin request : Request}
    (h : rsp.Answers origin) (hmsg : origin.msg = request.msg) : rsp.Pairs request :=
  ⟨hmsg ▸ h.2, by simp [IsFor, h.1, hmsg]⟩

/-- A consistent buffer pairs with every request for which it holds the
response. -/
theorem Response.Consistent.pairs {rsp : Response} {request : Request}
    (h : rsp.Consistent) (hfor : rsp.IsFor request) : rsp.Pairs request := by
  obtain ⟨origin, horigin, hmsg⟩ := Option.map_eq_some_iff.mp hfor
  exact (h origin horigin).pairs hmsg

def LogEntry.Paired : LogEntry σ → Prop
  | .sent request _ rsp => rsp.Pairs request
  | .taken _ _ _ | .handled _ _ | .completed _ _ | .flushed | .onu _ => True

instance : DecidablePred (LogEntry.Paired (σ := σ)) := fun entry => by
  cases entry <;> unfold LogEntry.Paired <;> infer_instance

namespace CoreState

/-- Every response transmitted so far pairs with the request that was taken for
it. -/
def ResponsesPaired (s : CoreState σ) : Prop :=
  ∀ entry ∈ s.log, entry.Paired

instance : DecidablePred (ResponsesPaired (σ := σ)) := fun s =>
  inferInstanceAs (Decidable (∀ entry ∈ s.log, entry.Paired))

/-- The core thread does not meet a buffer that belongs to another message: no
request is taken while an action is running, unless it repeats the one answered
busy last; none while a late response waits, unless it repeats the one that
response is for; and none under the correlation identifier of a remembered
response to a different message. -/
def KeepsPairing (s : CoreState σ) (event : CoreEvent σ) : Prop :=
  match event, s.corePc with
  | .core, .received r => s.action.run = true → s.busyRsp.IsFor r
  | .core, .delayed r =>
      s.action.ready = true → omciMsgTypeAkGet s.action.rsp.bytes ≠ 0 →
        s.action.msg.msg = r.msg
  | .core, .retransmission r =>
      ∀ rsp ∈ s.rspRetransmit r.msg.header.tci,
        omciMsgTypeAkGet rsp.bytes ≠ 0 → rsp.IsFor r
  | _, _ => True

instance (s : CoreState σ) (event : CoreEvent σ) : Decidable (s.KeepsPairing event) := by
  unfold KeepsPairing
  split <;> infer_instance

variable {handler : MsgHandler σ} {s s' : CoreState σ}

theorem Inv.consistent_of_rspRetransmit (hinv : Inv s) {tci : BitVec 16}
    {rsp : Response} (hhit : s.rspRetransmit tci = some rsp) : rsp.Consistent := by
  simp only [rspRetransmit] at hhit
  split at hhit
  · exact Option.some.inj hhit ▸ hinv.remembered (prio tci)
  · cases hhit

/-- The responses a step puts on the line. -/
theorem paired_of_step {event : CoreEvent σ} (hinv : Inv s)
    (hguard : s.KeepsPairing event) (hstep : Step handler s event s')
    (hpaired : s.ResponsesPaired) : s'.ResponsesPaired := by
  have hcons {entry : LogEntry σ} (hentry : entry.Paired) :
      ∀ e ∈ entry :: s.log, e.Paired :=
    List.forall_mem_cons.mpr ⟨hentry, hpaired⟩
  have hphase := hinv.phase
  cases hstep with
  | running r hpc hrun =>
      simp only [KeepsPairing, hpc] at hguard
      exact hcons (hinv.busyRsp.pairs (hguard hrun))
  | lateSent r hpc hready hak =>
      simp only [KeepsPairing, hpc] at hguard
      exact hcons ((hinv.coherent.late hready).pairs (hguard hready hak))
  | retransmit r rsp hpc hhit hak =>
      simp only [KeepsPairing, hpc] at hguard
      exact hcons ((hinv.consistent_of_rspRetransmit hhit).pairs (hguard rsp hhit hak))
  | busy r hpc => exact hcons ((Response.answers_rspCreate r).pairs rfl)
  | collect r hpc hak =>
      rw [hpc] at hphase
      obtain ⟨hmsg, hdone⟩ := hphase
      exact hcons (hdone.answers.pairs (congrArg Request.msg hmsg))
  | onu mib | flush | take msg fifo hpc hfifo | actionHandle mt rsp result hpc hresult hflush
  | actionFinish rsp hpc hak | actionFinishRemember rsp hpc hak => exact hcons trivial
  | actionHandleFlush mt rsp result hpc hresult hflush =>
      exact List.forall_mem_cons.mpr ⟨trivial, hcons trivial⟩
  | _ => exact hpaired

theorem log_suffix_of_step {event : CoreEvent σ} (hstep : Step handler s event s') :
    s.log <:+ s'.log := by
  cases hstep <;> first | exact List.suffix_rfl | exact List.suffix_cons _ _ | skip
  exact (List.suffix_cons _ _).trans (List.suffix_cons _ _)

/-- A step after which every response pairs met the guard. -/
theorem keepsPairing_of_step {event : CoreEvent σ} (hinv : Inv s)
    (hstep : Step handler s event s') (hpaired : s'.ResponsesPaired) : s.KeepsPairing event := by
  cases hstep with
  | take msg fifo hpc hfifo | create r hpc | store r hpc | start r hpc | wakeUp r hpc
  | woken r hpc hevent | stillRunning r hpc hrun | finished r hpc hrun | busy r hpc
  | collectDropped r hpc hak | collect r hpc hak => simp [KeepsPairing, hpc]
  | running r hpc hrun =>
      have hsent : s.busyRsp.Pairs r := hpaired _ List.mem_cons_self
      simp only [KeepsPairing, hpc]
      intro _
      exact hsent.2
  | notRunning r hpc hrun => simp [KeepsPairing, hpc, hrun]
  | notLate r hpc hready => simp [KeepsPairing, hpc, hready]
  | lateDropped r hpc hready hak => simp [KeepsPairing, hpc, hak]
  | lateSent r hpc hready hak =>
      have hsent : s.action.rsp.Pairs r := hpaired _ List.mem_cons_self
      simp only [KeepsPairing, hpc]
      intro _ _
      obtain ⟨origin, horigin, hmsg⟩ := Option.map_eq_some_iff.mp hsent.2
      have hsame : s.action.msg = origin :=
        Option.some.inj ((hinv.coherent.late hready).1.symm.trans horigin)
      rw [hsame, hmsg]
  | fresh r hpc hmiss => simp [KeepsPairing, hpc, hmiss]
  | retransmitDropped r rsp hpc hhit hak => simp [KeepsPairing, hpc, hhit, hak]
  | retransmit r rsp hpc hhit hak =>
      have hsent : rsp.Pairs r := hpaired _ List.mem_cons_self
      simp only [KeepsPairing, hpc, hhit]
      intro other hother _
      exact Option.some.inj hother ▸ hsent.2
  | _ => simp [KeepsPairing]

/-- The responses of a run all pair exactly when the run never lets the core
thread meet a buffer that belongs to another message. -/
theorem responsesPaired_iff {mib : σ} (hreach : Reach (CoreState.step handler) (init mib) s) :
    s.ResponsesPaired ↔
      ReachOn (CoreState.step handler) KeepsPairing (init mib) s := by
  constructor
  · intro hpaired
    induction hreach with
    | refl => exact .refl
    | tail hbefore _ hnext ih =>
        have hstep := step_cases hnext
        have hsuffix := log_suffix_of_step hstep
        have hearlier := ih fun entry hentry => hpaired entry (hsuffix.mem hentry)
        exact hearlier.tail (keepsPairing_of_step (inv_of_reachOn hbefore) hstep hpaired) hnext
  · intro hguarded
    apply hguarded.invariant_of (fun _ hstate => inv_of_reachOn hstate)
    · intro entry hentry
      simp [init] at hentry
    · intro before event after hinv hpaired hguard hnext
      exact paired_of_step hinv hguard (step_cases hnext) hpaired

end CoreState

/-! ## A late response goes to the next request -/

/-- A handler that answers every request with the contents of the request. -/
def echoHandler : MsgHandler Unit where
  msgHandle _ msg :=
    { mib := ()
      rsp := { rspCreate msg with contents := msg.contents }
      error := .success
      flushed := false }
  mibSeqNumInc mib := mib
  answers _ msg := (rspCreate_sameTransaction msg).withContents msg.contents

/-- A GET request for a managed entity, with acknowledgement requested. -/
def getRequest (tci classId instanceId : BitVec 16) : OmciMsg where
  header :=
    { tci := tci
      type := 0x40#8 ||| mtGet
      devId := omciFormatBaseline
      classId := classId
      instanceId := instanceId }
  contents := Vector.replicate 32 0x55#8

def handOver (msg : OmciMsg) : List (CoreEvent Unit) :=
  .arrive msg :: List.replicate 8 .core

/-- The first request times out and is completed late, then a request for
another managed entity is taken. -/
def lateAnswerRun : List (CoreEvent Unit) :=
  handOver (getRequest 1 256 0) ++ [.timeout, .core] ++ List.replicate 5 .action ++
    .arrive (getRequest 2 11 257) :: List.replicate 3 .core

def LogEntry.isSent : LogEntry σ → Bool
  | .sent _ _ _ => true
  | _ => false

def timelyRun : List (CoreEvent Unit) :=
  handOver (getRequest 1 256 0) ++ List.replicate 6 .action ++ List.replicate 3 .core ++
    handOver (getRequest 2 11 257) ++ List.replicate 6 .action ++ List.replicate 3 .core

namespace CoreState

/-- The response computed for the first request goes out for the second. -/
theorem responsesPaired_fails :
    ∃ s, Reach (CoreState.step echoHandler) (init ()) s ∧ ¬ s.ResponsesPaired := by
  have hrun : (execOn (CoreState.step echoHandler) (fun _ _ => True) (init ())
      lateAnswerRun).any (fun s => decide (¬ s.ResponsesPaired)) = true := by
    decide +kernel
  exact exists_reachOn_of_execOn hrun

/-- In a run that answers both requests in time the two responses pair. -/
theorem responsesPaired_timelyRun :
    ∃ s, Reach (CoreState.step echoHandler) (init ()) s ∧
      s.log.countP LogEntry.isSent = 2 ∧ s.ResponsesPaired := by
  have hrun : (execOn (CoreState.step echoHandler) KeepsPairing (init ())
      timelyRun).any (fun s => decide (s.log.countP LogEntry.isSent = 2)) = true := by
    decide +kernel
  obtain ⟨s, hguarded, hcount⟩ := exists_reachOn_of_execOn hrun
  exact ⟨s, hguarded.toReach, hcount, (responsesPaired_iff hguarded.toReach).mpr hguarded⟩

end CoreState

end FalconGpon.Omci
