/-
# Delivery of requests to the message handler

A request is owed a run of the message handler when it is taken while no action
executes and does not repeat its predecessor. The core thread dismisses a
request in three places: it answers busy while an action runs, it sends a late
response instead, or it finds a remembered response. The first never meets an
owed request; the other two lose it. `KeepsDelivery` forbids them, and in the
runs that keep clear of them every owed request is handled exactly once, however
many actions timed out before and however many stale wakeups they left.
-/

import FalconGpon.Omci.CoreHistory
import FalconGpon.Omci.CorePairing

namespace FalconGpon.Omci

open FalconGpon.Lib

variable {σ : Type}

/-- The entry records that `request` was taken while no action was executing. -/
def LogEntry.takesIdle (request : Request) : LogEntry σ → Bool
  | .taken r executing _ => decide (r = request) && !executing
  | _ => false

/-- The entry records that the message handler ran for `request`. -/
def LogEntry.handles (request : Request) : LogEntry σ → Bool
  | .handled r _ => decide (r = request)
  | _ => false

def ActionPc.beforeHandler : ActionPc → Bool
  | .woken | .begin _ | .handle _ _ => true
  | .wait | .finish _ | .signal => false

namespace CoreState

/-- The request was taken while no action was executing and is not a
retransmission of the previous one. -/
def Owed (s : CoreState σ) (r : Request) : Prop :=
  r.copy = false ∧ s.log.any (LogEntry.takesIdle r) = true

instance (s : CoreState σ) (r : Request) : Decidable (s.Owed r) :=
  inferInstanceAs (Decidable (_ ∧ _))

def handledTimes (s : CoreState σ) (r : Request) : Nat :=
  s.log.countP (LogEntry.handles r)

/-- The core thread is preparing the request, or the action thread has it and
is still to run the handler. -/
def OnItsWay (s : CoreState σ) (r : Request) : Prop :=
  s.corePc.preparing = some r ∨
    s.action.msg = r ∧ (s.actionEvent ≠ 0 ∨ s.actionPc.beforeHandler = true)

instance (s : CoreState σ) (r : Request) : Decidable (s.OnItsWay r) :=
  inferInstanceAs (Decidable (_ ∨ _))

def RequestsDelivered (s : CoreState σ) : Prop :=
  ∀ r, s.Owed r →
    s.handledTimes r = 1 ∧ ¬ s.OnItsWay r ∨ s.handledTimes r = 0 ∧ s.OnItsWay r

/-- The core thread is about to dismiss the request instead of handing it over. -/
def Dismisses (s : CoreState σ) (r : Request) : Prop :=
  s.corePc = .received r ∧ s.action.run = true ∨
  s.corePc = .delayed r ∧ s.action.ready = true ∧
    omciMsgTypeAkGet s.action.rsp.bytes ≠ 0 ∨
  s.corePc = .retransmission r ∧
    ∃ rsp ∈ s.rspRetransmit r.msg.header.tci, omciMsgTypeAkGet rsp.bytes ≠ 0

/-- No request that is owed a run of the handler is met by a late response, or
by a remembered response under the same correlation identifier. -/
def KeepsDelivery (s : CoreState σ) (event : CoreEvent σ) : Prop :=
  match event, s.corePc with
  | .core, .delayed r =>
      s.action.ready = true → omciMsgTypeAkGet s.action.rsp.bytes ≠ 0 → ¬ s.Owed r
  | .core, .retransmission r =>
      ∀ rsp ∈ s.rspRetransmit r.msg.header.tci,
        omciMsgTypeAkGet rsp.bytes ≠ 0 → ¬ s.Owed r
  | _, _ => True

instance (s : CoreState σ) (event : CoreEvent σ) : Decidable (s.KeepsDelivery event) := by
  unfold KeepsDelivery
  generalize s.corePc = pc
  exact match event, pc with
    | .core, .delayed _ => inferInstanceAs (Decidable (_ → _))
    | .core, .retransmission _ => inferInstanceAs (Decidable (∀ _ ∈ _, _))
    | .arrive _, _ | .fifoClear, _ | .failsafeEnable _, _ | .onu _, _ | .retransmitFlush, _
    | .timeout, _ | .action, _ => isTrue trivial
    | .core, .idle | .core, .received _ | .core, .create _ | .core, .store _ | .core, .start _
    | .core, .wakeUp _ | .core, .wait _ | .core, .check _ | .core, .busy _ | .core, .collect _ =>
        isTrue trivial

variable {handler : MsgHandler σ} {s s' : CoreState σ}

theorem onItsWay_of_quiet (hquiet : s.handover.Quiet) (r : Request) :
    s.OnItsWay r ↔ s.corePc.preparing = some r := by
  have hevent : s.actionEvent = 0 := hquiet.event
  have hpc : s.actionPc.beforeHandler = false := by
    have hresting : s.actionPc.resting = true := hquiet.resting
    cases hpc : s.actionPc <;> simp_all [ActionPc.resting, ActionPc.beforeHandler]
  simp [OnItsWay, hevent, hpc]

variable {event : CoreEvent σ} {r : Request}

/-- What one step does to a request that has been taken: nothing, run the
handler, or dismiss it. -/
theorem delivery_of_step (hinv : Inv s) (hchron : Chronicle s)
    (hstep : Step handler s event s') (hknown : r.ordinal ≤ s.takenCount) :
    (s'.OnItsWay r ↔ s.OnItsWay r) ∧ s'.handledTimes r = s.handledTimes r ∨
    s.OnItsWay r ∧ ¬ s'.OnItsWay r ∧ s'.handledTimes r = s.handledTimes r + 1 ∨
    s.OnItsWay r ∧ ¬ s'.OnItsWay r ∧ s'.handledTimes r = s.handledTimes r ∧
      event = .core ∧ s.Dismisses r := by
  have hphase := hinv.phase
  have hne := hchron.action_ne (r := r)
  cases hstep with
  | take msg fifo hpc hfifo =>
      have hnew : s.requestOf msg ≠ r := by grind [requestOf]
      exact Or.inl ⟨by simp [OnItsWay, hpc, CorePc.preparing, hnew], rfl⟩
  | running q hpc hrun =>
      by_cases hq : q = r
      · subst hq
        have hother := hne (by rw [hpc]; rfl)
        exact Or.inr (Or.inr ⟨by simp [OnItsWay, hpc, CorePc.preparing],
          by simp [OnItsWay, CorePc.preparing, hother], rfl, rfl, Or.inl ⟨hpc, hrun⟩⟩)
      · exact Or.inl ⟨by simp [OnItsWay, hpc, CorePc.preparing, hq], rfl⟩
  | lateSent q hpc hready hak =>
      by_cases hq : q = r
      · subst hq
        have hother := hne (by rw [hpc]; rfl)
        exact Or.inr (Or.inr ⟨by simp [OnItsWay, hpc, CorePc.preparing],
          by simp [OnItsWay, CorePc.preparing, hother], rfl, rfl,
          Or.inr (Or.inl ⟨hpc, hready, hak⟩)⟩)
      · exact Or.inl ⟨by simp [OnItsWay, hpc, CorePc.preparing, hq], rfl⟩
  | retransmit q rsp hpc hhit hak =>
      by_cases hq : q = r
      · subst hq
        have hother := hne (by rw [hpc]; rfl)
        exact Or.inr (Or.inr ⟨by simp [OnItsWay, hpc, CorePc.preparing],
          by simp [OnItsWay, CorePc.preparing, hother], rfl, rfl,
          Or.inr (Or.inr ⟨hpc, rsp, hhit, hak⟩)⟩)
      · exact Or.inl ⟨by simp [OnItsWay, hpc, CorePc.preparing, hq], rfl⟩
  | store q hpc =>
      rw [hpc] at hphase
      have hquiet := hphase.1
      refine Or.inl ⟨?_, rfl⟩
      rw [onItsWay_of_quiet hquiet, hpc]
      refine @onItsWay_of_quiet σ _ ?_ r
      exact ⟨hquiet.run, hquiet.event, hquiet.resting⟩
  | wakeUp q hpc =>
      rw [hpc] at hphase
      have hevent : s.actionEvent = 0 := hphase.2.event
      have hmsg : s.action.msg = q := hphase.1
      refine Or.inl ⟨?_, rfl⟩
      by_cases hq : q = r <;> simp [OnItsWay, hpc, CorePc.preparing, hmsg, hq]
  | actionWoken hpc hevent =>
      exact Or.inl ⟨by simp [OnItsWay, hevent, ActionPc.beforeHandler], rfl⟩
  | actionHandle mt rsp result hpc | actionHandleFlush mt rsp result hpc =>
      have hworking : s.actionPc.resting = false := by rw [hpc]; rfl
      have hevent : s.actionEvent = 0 :=
        (hinv.inFlight_of_working hworking).event_eq_zero hworking
      by_cases hr : s.action.msg = r
      · have hcore : s.corePc.preparing ≠ some r := fun h =>
          hchron.ne_of_working hinv h hworking hr
        exact Or.inr (Or.inl ⟨by simp [OnItsWay, hr, hpc, ActionPc.beforeHandler],
          by simp [OnItsWay, hcore, hevent, ActionPc.beforeHandler],
          by simp [handledTimes, LogEntry.handles, hr]⟩)
      · exact Or.inl ⟨by simp [OnItsWay, hr], by simp [handledTimes, LogEntry.handles, hr]⟩
  | arrive msg | fifoClear | failsafeEnable enable | onu mib | flush => exact Or.inl ⟨Iff.rfl, rfl⟩
  | actionFinishRemember rsp hpc hak =>
      exact Or.inl ⟨by simp [OnItsWay, rspRemember, hpc, ActionPc.beforeHandler], rfl⟩
  | expire q hpc => exact Or.inl ⟨by simp [OnItsWay, hpc, CorePc.preparing], rfl⟩
  | _ =>
      rename_i hpc
      exact Or.inl ⟨by simp [OnItsWay, *, CorePc.preparing, ActionPc.beforeHandler], rfl⟩

theorem Owed.known (hchron : Chronicle s) (howed : s.Owed r) : r.ordinal ≤ s.takenCount := by
  obtain ⟨entry, hentry, htakes⟩ := List.any_eq_true.mp howed.2
  apply hchron.logged entry hentry r
  cases entry <;> simp_all [LogEntry.takesIdle, LogEntry.request]

theorem owed_iff_of_step (hstep : Step handler s event s') (hknown : r.ordinal ≤ s.takenCount) :
    s'.Owed r ↔ s.Owed r := by
  cases hstep with
  | take msg fifo hpc hfifo =>
      have hnew : s.requestOf msg ≠ r := by grind [requestOf]
      simp [Owed, LogEntry.takesIdle, hnew]
  | _ => simp [Owed, LogEntry.takesIdle, retransmitFlush]

theorem received_of_owed (hchron : Chronicle s)
    (hstep : Step handler s event s') (howed : s'.Owed r) (hnew : ¬ r.ordinal ≤ s.takenCount) :
    s'.corePc = .received r ∧ s'.action.run = false := by
  have hold : ¬ s.Owed r := fun h => hnew (h.known hchron)
  cases hstep with
  | take msg fifo hpc hfifo =>
      simp [Owed, LogEntry.takesIdle] at howed hold ⊢
      grind
  | _ => exact absurd (by simpa [Owed, LogEntry.takesIdle, retransmitFlush] using howed) hold

def IdleKept (s : CoreState σ) : Prop :=
  ∀ r, s.corePc = .received r → s.Owed r → s.action.run = false

theorem idleKept_of_step (hchron : Chronicle s) (hidle : s.IdleKept)
    (hstep : Step handler s event s') : s'.IdleKept := by
  intro r hpc' howed
  by_cases hknown : r.ordinal ≤ s.takenCount
  · have howed' := (owed_iff_of_step hstep hknown).mp howed
    cases hstep <;> grind [IdleKept, requestOf, retransmitFlush, rspRemember]
  · exact (received_of_owed hchron hstep howed hknown).2

theorem handledTimes_of_preparing (hchron : Chronicle s)
    (hpc : s.corePc.preparing = some r) : s.handledTimes r = 0 := by
  apply List.countP_eq_zero.mpr
  intro entry hentry hhandles
  cases entry with
  | handled q failsafe =>
      have hsame : q = r := by simpa [LogEntry.handles] using hhandles
      exact hchron.unhandled r hpc failsafe (hsame ▸ hentry)
  | _ => simp [LogEntry.handles] at hhandles

theorem lost_of_dismisses (hchron : Chronicle s) (hstep : Step handler s .core s')
    (hdismiss : s.Dismisses r) : s'.handledTimes r = 0 ∧ ¬ s'.OnItsWay r := by
  have hpc : s.corePc.unstored = some r := by
    rcases hdismiss with ⟨hpc, -⟩ | ⟨hpc, -⟩ | ⟨hpc, -⟩ <;> rw [hpc] <;> rfl
  have hother := hchron.action_ne hpc
  have hzero := handledTimes_of_preparing hchron (CorePc.preparing_of_unstored hpc)
  have hsent {path : Path} {rsp : Response} :
      (LogEntry.sent r path rsp :: s.log).countP (LogEntry.handles r) = 0 := by
    rw [List.countP_cons_of_neg (by simp [LogEntry.handles])]
    exact hzero
  cases hstep <;>
    simp_all [Dismisses, OnItsWay, handledTimes, CorePc.preparing]

theorem not_owed_of_dismisses (hidle : s.IdleKept) (hguard : s.KeepsDelivery .core)
    (hdismiss : s.Dismisses r) : ¬ s.Owed r := by
  rcases hdismiss with ⟨hpc, hrun⟩ | ⟨hpc, hready, hak⟩ | ⟨hpc, rsp, hhit, hak⟩
  · intro howed
    exact absurd (hidle r hpc howed) (by simp [hrun])
  · simp only [KeepsDelivery, hpc] at hguard
    exact hguard hready hak
  · simp only [KeepsDelivery, hpc] at hguard
    exact hguard rsp hhit hak

/-- A step that meets the guard loses no owed request. -/
theorem delivered_of_step (hinv : Inv s) (hchron : Chronicle s)
    (hidle : s.IdleKept) (hguard : s.KeepsDelivery event)
    (hstep : Step handler s event s') (hdelivered : s.RequestsDelivered) :
    s'.RequestsDelivered := by
  intro r howed
  by_cases hknown : r.ordinal ≤ s.takenCount
  · have howed' := (owed_iff_of_step hstep hknown).mp howed
    have hbefore := hdelivered r howed'
    rcases delivery_of_step hinv hchron hstep hknown with
      ⟨hway, htimes⟩ | ⟨hway, hgone, htimes⟩ | ⟨hway, hgone, htimes, rfl, hdismiss⟩
    · rw [hway, htimes]
      exact hbefore
    · rcases hbefore with ⟨-, hnot⟩ | ⟨hzero, -⟩
      · exact absurd hway hnot
      · exact Or.inl ⟨by rw [htimes, hzero], hgone⟩
    · exact absurd howed' (not_owed_of_dismisses hidle hguard hdismiss)
  · have hpc := (received_of_owed hchron hstep howed hknown).1
    have hpreparing : s'.corePc.preparing = some r := by rw [hpc]; rfl
    exact Or.inr ⟨handledTimes_of_preparing (hchron.step hinv hstep) hpreparing,
      Or.inl hpreparing⟩

/-- A step after which no owed request is lost met the guard. -/
theorem keepsDelivery_of_step (hchron : Chronicle s)
    (hstep : Step handler s event s') (hdelivered : s'.RequestsDelivered) :
    s.KeepsDelivery event := by
  have hkept (hevent : event = .core) {r : Request} (hdismiss : s.Dismisses r) :
      ¬ s.Owed r := by
    subst hevent
    intro howed
    have hafter := hdelivered r ((owed_iff_of_step hstep (howed.known hchron)).mpr howed)
    obtain ⟨hzero, hgone⟩ := lost_of_dismisses hchron hstep hdismiss
    rcases hafter with ⟨hone, -⟩ | ⟨-, hway⟩
    · exact absurd (hzero.symm.trans hone) Nat.zero_ne_one
    · exact hgone hway
  unfold KeepsDelivery
  split
  · rename_i r hpc
    intro hready hak
    exact hkept rfl (Or.inr (Or.inl ⟨hpc, hready, hak⟩))
  · rename_i r hpc
    intro rsp hhit hak
    exact hkept rfl (Or.inr (Or.inr ⟨hpc, rsp, hhit, hak⟩))
  · trivial

/-- A lost request stays lost. -/
theorem delivered_before_step (hinv : Inv s) (hchron : Chronicle s)
    (hstep : Step handler s event s') (hdelivered : s'.RequestsDelivered) :
    s.RequestsDelivered := by
  intro r howed
  have hknown := howed.known hchron
  have hafter := hdelivered r ((owed_iff_of_step hstep hknown).mpr howed)
  rcases delivery_of_step hinv hchron hstep hknown with
    ⟨hway, htimes⟩ | ⟨hway, hgone, htimes⟩ | ⟨hway, hgone, htimes, rfl, hdismiss⟩
  · rw [hway, htimes] at hafter
    exact hafter
  · rcases hafter with ⟨hone, -⟩ | ⟨-, hway'⟩
    · exact Or.inr ⟨by omega, hway⟩
    · exact absurd hway' hgone
  · obtain ⟨hzero, -⟩ := lost_of_dismisses hchron hstep hdismiss
    exact Or.inr ⟨htimes ▸ hzero, hway⟩

/-- In a run every owed request is handled exactly once, or is on its way to
that, exactly when no owed request meets a late or a remembered response. -/
theorem requestsDelivered_iff {mib : σ} (hreach : Reach (CoreState.step handler) (init mib) s) :
    s.RequestsDelivered ↔
      ReachOn (CoreState.step handler) KeepsDelivery (init mib) s := by
  constructor
  · intro hdelivered
    induction hreach with
    | refl => exact .refl
    | tail hbefore _ hnext ih =>
        have hstep := step_cases hnext
        have hinv := inv_of_reachOn hbefore
        have hchron := chronicle_of_reachOn hbefore
        have hearlier := ih (delivered_before_step hinv hchron hstep hdelivered)
        exact hearlier.tail (keepsDelivery_of_step hchron hstep hdelivered) hnext
  · intro hguarded
    suffices hboth : s.IdleKept ∧ s.RequestsDelivered from hboth.2
    apply hguarded.invariant_of
      (fun _ hstate => And.intro (inv_of_reachOn hstate) (chronicle_of_reachOn hstate))
    · exact ⟨fun r hpc => by simp [init] at hpc, fun r howed => by simp [Owed, init] at howed⟩
    · rintro before event after ⟨hinv, hchron⟩ ⟨hidle, hdelivered⟩ hguard hnext
      have hstep := step_cases hnext
      exact ⟨idleKept_of_step hchron hidle hstep,
        delivered_of_step hinv hchron hidle hguard hstep hdelivered⟩

/-- The second request of `lateAnswerRun` and of `timelyRun`. -/
def secondRequest : Request where
  msg := getRequest 2 11 257
  ordinal := 2
  copy := false

/-- The late response to the first request takes the place of the second. -/
theorem requestsDelivered_fails :
    ∃ s, Reach (CoreState.step echoHandler) (init ()) s ∧ ¬ s.RequestsDelivered := by
  have hrun : (execOn (CoreState.step echoHandler) (fun _ _ => True) (init ())
      lateAnswerRun).any (fun s => decide (s.Owed secondRequest ∧
        s.handledTimes secondRequest = 0 ∧ ¬ s.OnItsWay secondRequest)) = true := by
    decide +kernel
  obtain ⟨s, hreach, howed, hzero, hgone⟩ := exists_reachOn_of_execOn hrun
  refine ⟨s, hreach, ?_⟩
  intro hdelivered
  rcases hdelivered secondRequest howed with ⟨hone, -⟩ | ⟨-, hway⟩
  · exact absurd (hzero.symm.trans hone) Nat.zero_ne_one
  · exact hgone hway

/-- In a run that answers both requests in time the second one is delivered. -/
theorem requestsDelivered_timelyRun :
    ∃ s, Reach (CoreState.step echoHandler) (init ()) s ∧ s.Owed secondRequest ∧
      s.RequestsDelivered := by
  have hrun : (execOn (CoreState.step echoHandler) KeepsDelivery (init ())
      timelyRun).any (fun s => decide (s.Owed secondRequest)) = true := by
    decide +kernel
  obtain ⟨s, hguarded, howed⟩ := exists_reachOn_of_execOn hrun
  exact ⟨s, hguarded.toReach, howed, (requestsDelivered_iff hguarded.toReach).mpr hguarded⟩

/-! ## The order of the requests -/

/-- The ordinals of the requests that were handled, the last one first. -/
def handledOrdinals (s : CoreState σ) : List Nat :=
  s.log.filterMap fun
    | .handled r _ => some r.ordinal
    | _ => none

/-- Requests are handled in the order in which they were taken, none twice, and the one in the
action record is the last of them or still to come. -/
structure InOrder (s : CoreState σ) : Prop where
  sorted : s.handledOrdinals.Pairwise (· > ·)
  last : ∀ n ∈ s.handledOrdinals, n ≤ s.action.msg.ordinal
  next : s.OnItsWay s.action.msg → ∀ n ∈ s.handledOrdinals, n < s.action.msg.ordinal

theorem InOrder.handled (h : InOrder s) (hway : s.OnItsWay s.action.msg)
    (hlog : s'.handledOrdinals = s.action.msg.ordinal :: s.handledOrdinals)
    (hmsg : s'.action.msg = s.action.msg) (hgone : ¬ s'.OnItsWay s.action.msg) : InOrder s' := by
  refine ⟨?_, ?_, fun hmore => absurd (hmsg ▸ hmore) hgone⟩
  · rw [hlog]
    exact List.pairwise_cons.mpr ⟨h.next hway, h.sorted⟩
  · rw [hlog, hmsg]
    exact List.forall_mem_cons.mpr ⟨le_refl _, h.last⟩

theorem InOrder.step (h : InOrder s) (hinv : Inv s) (hchron : Chronicle s)
    (hstep : Step handler s event s') : InOrder s' := by
  have hdelivery := delivery_of_step hinv hchron hstep hchron.action
  have hsame (hlog : s'.handledOrdinals = s.handledOrdinals)
      (hmsg : s'.action.msg = s.action.msg) : InOrder s' := by
    rw [← hmsg] at hdelivery
    refine ⟨hlog ▸ h.sorted, hlog ▸ hmsg ▸ h.last, fun hway => hlog ▸ hmsg ▸ h.next ?_⟩
    rcases hdelivery with ⟨hiff, -⟩ | ⟨-, hgone, -⟩ | ⟨-, hgone, -⟩
    · exact hmsg ▸ hiff.mp hway
    · exact absurd hway hgone
    · exact absurd hway hgone
  cases hstep with
  | store r hpc =>
      have hall : ∀ n ∈ s.handledOrdinals, n < r.ordinal := fun n hn =>
        lt_of_le_of_lt (h.last n hn) (hchron.earlier r (by rw [hpc]; rfl))
      exact ⟨h.sorted, fun n hn => (hall n hn).le, fun _ => hall⟩
  | actionHandle mt rsp result hpc | actionHandleFlush mt rsp result hpc =>
      rcases hdelivery with ⟨-, htimes⟩ | ⟨hway, hgone, -⟩ | ⟨-, -, htimes, -⟩
      · simp [handledTimes, LogEntry.handles] at htimes
      · exact h.handled hway rfl rfl hgone
      · simp [handledTimes, LogEntry.handles] at htimes
  | _ => exact hsame rfl rfl

/-- However the threads are interleaved, the requests change the MIB as if they were handled one
after another, in the order in which they were taken and none twice. -/
theorem handled_serially (handler : MsgHandler σ) (mib : σ) (events : List (CoreEvent σ)) :
    Along (CoreState.step handler) (fun _ _ after => after.handledOrdinals.Pairwise (· > ·) ∧
        after.mib = mibReplay handler mib after.log) (init mib) events := by
  refine @Along.of_invariant _ _ _
    (fun s => Reach (CoreState.step handler) (init mib) s ∧ InOrder s) _ _ ?_
    ⟨.refl, .nil, nofun, fun _ => nofun⟩ events
  rintro before event after ⟨hreach, horder⟩ hnext
  have hafter := hreach.tail trivial hnext
  have hkept := horder.step (inv_of_reachOn hreach) (chronicle_of_reachOn hreach) (step_cases hnext)
  exact ⟨⟨hkept.sorted, mib_eq_mibReplay hafter⟩, hafter, hkept⟩

end CoreState

end FalconGpon.Omci
