/-
# What the log says about the request in hand

Requests are numbered in the order in which they are taken, so the request the
core thread is serving is newer than every other request the log mentions.
`Chronicle` collects what follows: it has not been answered, it has not been
handled before it is handed over, and no other action can be mistaken for it.
-/

import FalconGpon.Omci.CoreInvariant

namespace FalconGpon.Omci

open FalconGpon.Lib

variable {σ : Type}

/-- The request an entry is about. -/
def LogEntry.request : LogEntry σ → Option Request
  | .taken request _ _ => some request
  | .sent request _ _ => some request
  | .handled request _ => some request
  | .completed request _ => some request
  | .flushed => none
  | .onu _ => none

namespace CorePc

/-- The request the core thread is serving. -/
def request : CorePc → Option Request
  | .idle => none
  | .received r | .delayed r | .retransmission r | .create r | .store r | .start r
  | .wakeUp r | .wait r | .check r | .busy r | .collect r => some r

/-- The request that is still to be handed to the action thread. -/
def preparing : CorePc → Option Request
  | .received r | .delayed r | .retransmission r | .create r | .store r | .start r
  | .wakeUp r => some r
  | .idle | .wait _ | .check _ | .busy _ | .collect _ => none

def unstored : CorePc → Option Request
  | .received r | .delayed r | .retransmission r | .create r | .store r => some r
  | .idle | .start _ | .wakeUp _ | .wait _ | .check _ | .busy _ | .collect _ => none

theorem request_of_preparing {pc : CorePc} {r : Request} (h : pc.preparing = some r) :
    pc.request = some r := by
  cases pc <;> simp_all [preparing, request]

theorem preparing_of_unstored {pc : CorePc} {r : Request} (h : pc.unstored = some r) :
    pc.preparing = some r := by
  cases pc <;> simp_all [preparing, unstored]

end CorePc

namespace CoreState

/-- The request being served is the newest one, and the log has little to say
about it. -/
structure Chronicle (s : CoreState σ) : Prop where
  logged : ∀ entry ∈ s.log, ∀ r, entry.request = some r → r.ordinal ≤ s.takenCount
  action : s.action.msg.ordinal ≤ s.takenCount
  current : ∀ r, s.corePc.request = some r →
    r.ordinal = s.takenCount ∧ lastTaken r.prio s.log = some r
  unanswered : ∀ r, s.corePc.request = some r →
    ∀ path rsp, LogEntry.sent r path rsp ∉ s.log
  unhandled : ∀ r, s.corePc.preparing = some r →
    ∀ failsafe, LogEntry.handled r failsafe ∉ s.log
  earlier : ∀ r, s.corePc.unstored = some r → s.action.msg.ordinal < r.ordinal

variable {handler : MsgHandler σ} {s s' : CoreState σ}

theorem Chronicle.action_ne (hchron : Chronicle s) {r : Request}
    (hpc : s.corePc.unstored = some r) : s.action.msg ≠ r := by
  intro hsame
  have hlt := hchron.earlier r hpc
  rw [hsame] at hlt
  exact lt_irrefl _ hlt

/-- While the action thread works, the request being prepared is another one. -/
theorem Chronicle.ne_of_working (hchron : Chronicle s) (hinv : Inv s) {r : Request}
    (hpc : s.corePc.preparing = some r) (hworking : s.actionPc.resting = false) :
    s.action.msg ≠ r := by
  have hflight := hinv.inFlight_of_working hworking
  have hphase := hinv.phase
  have hnotQuiet : ¬ s.handover.Quiet := fun h => absurd h.run (by simp [hflight.run])
  have hnotRaised : ¬ s.handover.Raised :=
    fun h => absurd h.resting (by simp [handover, hworking])
  cases hcore : s.corePc <;> rw [hcore] at hphase hpc <;> cases hpc
  · exact hchron.action_ne (by rw [hcore]; rfl)
  · exact absurd hphase hnotQuiet
  · exact absurd hphase.1 hnotQuiet
  · exact absurd hphase.1 hnotQuiet
  · exact absurd hphase.1 hnotQuiet
  · exact absurd hphase.2.1 hnotQuiet
  · exact absurd hphase.2 hnotRaised

theorem chronicle_init (mib : σ) : Chronicle (init mib) where
  logged _ h := by simp [init] at h
  action := le_refl _
  current _ h := by simp [init, CorePc.request] at h
  unanswered _ h := by simp [init, CorePc.request] at h
  unhandled _ h := by simp [init, CorePc.preparing] at h
  earlier _ h := by simp [init, CorePc.unstored] at h

variable {event : CoreEvent σ}

section Step

variable (hchron : Chronicle s) (hstep : Step handler s event s')
include hchron hstep

theorem logged_step :
    ∀ entry ∈ s'.log, ∀ r, entry.request = some r → r.ordinal ≤ s'.takenCount := by
  obtain ⟨hlogged, haction, hcurrent, -, -, -⟩ := hchron
  cases hstep <;>
    grind [CorePc.request, LogEntry.request, requestOf, retransmitFlush, rspRemember]

theorem action_step : s'.action.msg.ordinal ≤ s'.takenCount := by
  obtain ⟨-, haction, hcurrent, -, -, -⟩ := hchron
  cases hstep <;> grind [CorePc.request, retransmitFlush, rspRemember]

theorem current_step :
    ∀ r, s'.corePc.request = some r →
      r.ordinal = s'.takenCount ∧ lastTaken r.prio s'.log = some r := by
  obtain ⟨-, -, hcurrent, -, -, -⟩ := hchron
  cases hstep <;>
    grind [CorePc.request, lastTaken, requestOf, retransmitFlush, rspRemember]

theorem unanswered_step :
    ∀ r, s'.corePc.request = some r →
      ∀ path rsp, LogEntry.sent r path rsp ∉ s'.log := by
  obtain ⟨hlogged, -, -, hunanswered, -, -⟩ := hchron
  cases hstep <;>
    grind [CorePc.request, LogEntry.request, requestOf, retransmitFlush, rspRemember]

end Step

theorem unhandled_step (hinv : Inv s) (hchron : Chronicle s) (hstep : Step handler s event s') :
    ∀ r, s'.corePc.preparing = some r →
      ∀ failsafe, LogEntry.handled r failsafe ∉ s'.log := by
  have hne : ∀ r, s.corePc.preparing = some r → s.actionPc.resting = false →
      s.action.msg ≠ r :=
    fun r hpc hworking => hchron.ne_of_working hinv hpc hworking
  obtain ⟨hlogged, -, -, -, hunhandled, -⟩ := hchron
  cases hstep <;>
    grind [CorePc.preparing, LogEntry.request, requestOf, ActionPc.resting,
      retransmitFlush, rspRemember]

theorem earlier_step (hchron : Chronicle s) (hstep : Step handler s event s') :
    ∀ r, s'.corePc.unstored = some r → s'.action.msg.ordinal < r.ordinal := by
  obtain ⟨-, haction, -, -, -, hearlier⟩ := hchron
  cases hstep <;> grind [CorePc.unstored, requestOf, retransmitFlush, rspRemember]

theorem Chronicle.step (hinv : Inv s) (hchron : Chronicle s)
    (hstep : Step handler s event s') : Chronicle s' where
  logged := logged_step hchron hstep
  action := action_step hchron hstep
  current := current_step hchron hstep
  unanswered := unanswered_step hchron hstep
  unhandled := unhandled_step hinv hchron hstep
  earlier := earlier_step hchron hstep

theorem chronicle_of_reachOn {guard : CoreState σ → CoreEvent σ → Prop} {mib : σ}
    (hreach : ReachOn (CoreState.step handler) guard (init mib) s) : Chronicle s := by
  apply hreach.invariant_of (fun _ hstate => inv_of_reachOn hstate)
  · exact chronicle_init mib
  · intro before event after hinv hchron _ hnext
    exact hchron.step hinv (step_cases hnext)

/-- The MIB that the logged runs of the handler and the logged changes by other
threads lead to. -/
def mibReplay (handler : MsgHandler σ) (mib : σ) : List (LogEntry σ) → σ
  | [] => mib
  | .handled request failsafe :: rest =>
      (handler.perform failsafe (omciMsgTypeMtGet request.msg)
        (mibReplay handler mib rest) request.msg).mib
  | .onu changed :: _ => changed
  | .taken _ _ _ :: rest | .sent _ _ _ :: rest | .completed _ _ :: rest
  | .flushed :: rest => mibReplay handler mib rest

/-- A request that was not handled plays no part in the MIB. -/
theorem mibReplay_filter (mib : σ) {r : Request} {log : List (LogEntry σ)}
    (hlog : ∀ failsafe, LogEntry.handled r failsafe ∉ log) :
    mibReplay handler mib (log.filter fun entry => decide (entry.request ≠ some r)) =
      mibReplay handler mib log := by
  induction log with
  | nil => rfl
  | cons entry log ih =>
      have htail := ih fun failsafe h => hlog failsafe (List.mem_cons_of_mem _ h)
      cases entry with
      | handled q failsafe =>
          have hq : q ≠ r := fun h => hlog failsafe (h ▸ List.mem_cons_self)
          simp [LogEntry.request, hq, mibReplay, ← htail]
      | onu changed => simp [LogEntry.request, mibReplay]
      | flushed => simpa [LogEntry.request, mibReplay] using htail
      | taken q executing late | sent q path rsp | completed q rsp =>
          by_cases hq : q = r <;> simpa [LogEntry.request, hq, mibReplay] using htail

/-- The MIB is what the log replays to. -/
theorem mib_eq_mibReplay {guard : CoreState σ → CoreEvent σ → Prop} {mib : σ}
    (hreach : ReachOn (CoreState.step handler) guard (init mib) s) :
    s.mib = mibReplay handler mib s.log := by
  apply hreach.invariant_of (fun _ hstate => inv_of_reachOn hstate)
  · rfl
  · intro before event after hinv hmib _ hnext
    cases step_cases hnext with
    | actionHandle mt rsp result hpc hresult hflush
    | actionHandleFlush mt rsp result hpc hresult hflush =>
        have hmt := hinv.coherent.handle mt rsp hpc
        simp only [mibReplay, ← hmib, ← hresult, hmt]
        rfl
    | onu mib => rfl
    | _ => exact hmib

end CoreState

end FalconGpon.Omci
