/-
# The timers of the groups

A group has two timers, which hold the flow and the group: a refresh that leaves the group arms
the one that looks whether the group is active, and a query the one that deletes it. Every
refresh removes both, and so does the deletion of a port. When the ageing timer expires the
group is deleted and the activity timer, if it is pending, is not removed. The groups are those
of `MccState` and the timers those of `TimeoutQueue`; flows and groups are numbered, so that one
is told from another that is created in its place.
-/

import FalconGpon.Mcc.StaticRuns
import FalconGpon.Omci.TimeoutQueue

namespace FalconGpon.Mcc

open FalconGpon.Lib FalconGpon.Omci

/-! ## Groups and timers -/

/-- `MCC_GROUP_ACTIVITY_DETECTION_TIMEOUT_MS`. -/
def mccGroupActivityDetectionTimeoutMs : Int := 10000

/-- The timers of a group. -/
inductive MccGrpTimer
  /-- `mcc_grp_activity_timeout_handler`. -/
  | activity
  /-- `mcc_grp_aging_timeout_handler`. -/
  | ageing
deriving DecidableEq

/-- A timer. -/
inductive MccTimeout
  /-- One of a group, with the numbers of its flow and of the group. -/
  | group (timer : MccGrpTimer) (key : MccGrpKey) (flw grp : Nat)
  /-- Timers of other modules. -/
  | other
deriving DecidableEq

def MccTimeout.key : MccTimeout → Option MccGrpKey
  | .group _ key _ _ => some key
  | .other => none

def MccTimeout.timer : MccTimeout → Option (MccGrpTimer × MccGrpKey)
  | .group timer key _ _ => some (timer, key)
  | .other => none

/-- A group in memory; the identifiers are 0 if the timer does not run. -/
structure MccGrpObject where
  object : Nat
  actTimeoutId : BitVec 32
  ageTimeoutId : BitVec 32

def MccGrpObject.timeoutId (grp : MccGrpObject) : MccGrpTimer → BitVec 32
  | .activity => grp.actTimeoutId
  | .ageing => grp.ageTimeoutId

/-- Set the identifier of a timer. -/
def MccGrpObject.setTimeoutId (grp : MccGrpObject) (timer : MccGrpTimer)
    (timeoutId : BitVec 32) : MccGrpObject :=
  match timer with
  | .activity => { grp with actTimeoutId := timeoutId }
  | .ageing => { grp with ageTimeoutId := timeoutId }

theorem MccGrpObject.timeoutId_setTimeoutId (grp : MccGrpObject) (timer other : MccGrpTimer)
    (timeoutId : BitVec 32) : (grp.setTimeoutId timer timeoutId).timeoutId other =
      if other = timer then timeoutId else grp.timeoutId other := by
  cases timer <;> cases other <;> rfl

theorem MccGrpObject.object_setTimeoutId (grp : MccGrpObject) (timer : MccGrpTimer)
    (timeoutId : BitVec 32) : (grp.setTimeoutId timer timeoutId).object = grp.object := by
  cases timer <;> rfl

def MccGrpKey.flw (key : MccGrpKey) : Nat × BitVec 8 := (key.port, key.fid)

/-- The multicast core with the timers. -/
structure MccTimers (D : Type*) where
  core : MccState D
  /-- The numbers of the flows; those of flows that are in no list mean nothing. -/
  flws : Nat × BitVec 8 → Nat
  grps : MccGrpKey → MccGrpObject
  /-- How often flows and groups were looked up for a change. -/
  created : Nat
  queue : TimeoutQueue MccTimeout

def MccState.HasFlw {D : Type*} (s : MccState D) (flw : Nat × BitVec 8) : Prop :=
  ∃ port ∈ s.ports[flw.1]?, (mccFlwFind port.flwList flw.2).isSome

def MccState.HasGrp {D : Type*} (s : MccState D) (key : MccGrpKey) : Prop :=
  (s.grp key).isSome

/-- The groups of a port. -/
def MccState.grpKeys {D : Type*} (s : MccState D) (port : Nat) : List MccGrpKey :=
  match s.ports[port]? with
  | none => []
  | some entry => entry.flwList.flatMap fun fe => fe.grpList.map fun ge => ⟨port, fe.id, ge.da⟩

instance {D : Type*} (s : MccState D) : DecidablePred s.HasFlw := fun flw =>
  inferInstanceAs (Decidable (∃ port ∈ s.ports[flw.1]?, _))

instance {D : Type*} (s : MccState D) : DecidablePred s.HasGrp := fun key =>
  inferInstanceAs (Decidable ((s.grp key).isSome = true))

def removeTimeout (queue : TimeoutQueue MccTimeout) (timeoutId : BitVec 32) :
    TimeoutQueue MccTimeout :=
  if timeoutId = 0 then queue else queue.timeoutEventRemove timeoutId

namespace MccTimers

section Steps

variable {D : Type*} (drv : MccDriver D) (timers : MccTimers D)

/-- The flow and the group are created unless they are found. -/
def create (key : MccGrpKey) : MccTimers D :=
  { timers with
    flws := if timers.core.HasFlw key.flw then timers.flws
      else Function.update timers.flws key.flw timers.created
    grps := if timers.core.HasGrp key then timers.grps
      else Function.update timers.grps key ⟨timers.created, 0, 0⟩
    created := timers.created + 1 }

/-- Both timers of a group are removed. -/
def disarm (key : MccGrpKey) : MccTimers D :=
  { timers with
    queue := removeTimeout (removeTimeout timers.queue (timers.grps key).actTimeoutId)
      (timers.grps key).ageTimeoutId
    grps := Function.update timers.grps key
      { timers.grps key with actTimeoutId := 0, ageTimeoutId := 0 } }

def setTimeoutId (timer : MccGrpTimer) (key : MccGrpKey) (timeoutId : BitVec 32) : MccTimers D :=
  let grp := (timers.grps key).setTimeoutId timer timeoutId
  { timers with grps := Function.update timers.grps key grp }

/-- A timer of a group is added. -/
def arm (timer : MccGrpTimer) (key : MccGrpKey) (delay : Int) : MccTimers D :=
  let timeout := MccTimeout.group timer key (timers.flws key.flw) (timers.grps key).object
  { timers.setTimeoutId timer key (TimeoutState.nextTimeoutId timers.queue.lastTimeoutId) with
    queue := timers.queue.timeoutEventAdd timeout delay }

/-- A change of a client (`mccApply`) up to where `mcc_grp_refresh` arms the activity timer. -/
def change (bridgeInfo : Nat → Option (BitVec 16)) (op : MccFlowOp) : MccTimers D :=
  { (timers.create op.key).disarm op.key with core := (mccApply drv bridgeInfo timers.core op).1 }

def Dynamic (key : MccGrpKey) : Prop :=
  ∃ grp ∈ timers.core.grp key, grp.isStatic = false

instance : DecidablePred timers.Dynamic := fun key =>
  inferInstanceAs (Decidable (∃ grp ∈ timers.core.grp key, _))

/-- The end of `mcc_rec_process`, or a round of `mcc_port_mc_flow_control`. -/
def apply (bridgeInfo : Nat → Option (BitVec 16)) (op : MccFlowOp) : MccTimers D :=
  let changed := timers.change drv bridgeInfo op
  if changed.Dynamic op.key then
    changed.arm .activity op.key mccGroupActivityDetectionTimeoutMs
  else changed

/-- `mcc_qry_process` for a group whose ageing timer does not run. -/
def qryGrp (key : MccGrpKey) (agingToMs : BitVec 32) : MccTimers D :=
  { timers with core := { timers.core with ageing := key :: timers.core.ageing } }.arm .ageing key
    agingToMs.toNat

/-- `mcc_port_reset`, with the removals of `mcc_flw_cleanup`. -/
def portReset (port : Nat) : MccTimers D :=
  { (timers.core.grpKeys port).foldl disarm timers with core := mccPortReset drv timers.core port }

/-- The flow and the group that the timer holds are in the lists. -/
def Live : MccTimeout → Prop
  | .group _ key flw grp =>
      timers.core.HasGrp key ∧ timers.flws key.flw = flw ∧ (timers.grps key).object = grp
  | .other => True

instance : DecidablePred timers.Live
  | .group _ _ _ _ => inferInstanceAs (Decidable (_ ∧ _))
  | .other => inferInstanceAs (Decidable True)

/-- The handlers. A group that is gone is memory that was freed; what they do there is left
out. -/
def handle (timeout : MccTimeout) : MccTimers D :=
  match timeout with
  | .group timer key _ _ =>
      if timers.Live timeout then
        let cleared := timers.setTimeoutId timer key 0
        match timer with
        | .activity => cleared
        | .ageing => { cleared with core := mccGrpAgingTimeoutHandler drv timers.core key }
      else timers
  | .other => timers

def stepQueue (event : QueueEvent MccTimeout) : Option (MccTimers D) :=
  (queueStep timers.queue event).map fun queue => { timers with queue }

end Steps

end MccTimers

/-- Time passes, the timeout thread goes on, or the core changes groups. -/
inductive MccTimersEvent
  | tick (ms : Nat)
  /-- Another module adds or removes a timer. -/
  | add (delay : Int)
  | remove (timeoutId : BitVec 32)
  | poll
  | call
  | drop
  | apply (bridgeInfo : Nat → Option (BitVec 16)) (op : MccFlowOp)
  | qryGrp (key : MccGrpKey) (agingToMs : BitVec 32)
  | portReset (port : Nat)

/-- A step. -/
def mccTimersStep {D : Type*} (drv : MccDriver D) (timers : MccTimers D) :
    MccTimersEvent → Option (MccTimers D)
  | .tick ms => timers.stepQueue (.tick ms)
  | .add delay => timers.stepQueue (.add .other delay)
  | .remove timeoutId => timers.stepQueue (.remove timeoutId)
  | .poll => timers.stepQueue .poll
  | .call =>
      match timers.queue.thread with
      | .taken entry => (timers.stepQueue .call).map fun after => after.handle drv entry.timeout
      | _ => none
  | .drop => timers.stepQueue .drop
  | .apply bridgeInfo op => some (timers.apply drv bridgeInfo op)
  | .qryGrp key agingToMs =>
      if timers.core.HasGrp key ∧ (timers.grps key).ageTimeoutId = 0 ∧ agingToMs ≠ 0 then
        some (timers.qryGrp key agingToMs)
      else none
  | .portReset port => some (timers.portReset drv port)

/-- After `omci_mcc_init`. -/
def mccTimersInit {D : Type*} (dev : D) (now : Nat) : MccTimers D where
  core := mccInit dev
  flws _ := 0
  grps _ := ⟨0, 0, 0⟩
  created := 0
  queue := timeoutQueueInit now

/-! ## What is asked of them -/

namespace MccTimers

variable {D : Type*}

def Outstanding (timers : MccTimers D) (entry : QueuedTimeout MccTimeout) : Prop :=
  entry ∈ timers.queue.timeoutList ∧ timers.queue.thread ≠ .handled entry ∨
    timers.queue.thread = .taken entry

/-- What the thread has taken and not called yet. -/
def taken (timers : MccTimers D) : Option MccTimeout :=
  match timers.queue.thread with
  | .taken entry => some entry.timeout
  | _ => none

def Taken (timers : MccTimers D) (P : MccGrpKey → Prop) : Prop :=
  ∃ timeout ∈ timers.taken, ∃ key ∈ timeout.key, P key

def Forgets (timers : MccTimers D) : Prop :=
  ∃ timeout ∈ timers.taken, ∃ timer ∈ timeout.timer, timer.1 = .ageing ∧
    ∃ other ∈ timers.queue.timeoutList, other.timeout.timer = some (.activity, timer.2)

/-- The ageing timer deletes a group whose activity timer is pending; a change or a deletion of
the port comes for a group whose timer the thread has taken; or an identifier is given out that
is in use. -/
def Outlived (drv : MccDriver D) (timers : MccTimers D) : MccTimersEvent → Prop
  | .call => timers.Forgets
  | .apply bridgeInfo op => timers.Taken (· = op.key) ∨
      (timers.change drv bridgeInfo op).Dynamic op.key ∧
        (timers.change drv bridgeInfo op).queue.NextIdInUse
  | .portReset port => timers.Taken (·.port = port)
  | .add _ | .qryGrp _ _ => timers.queue.NextIdInUse
  | _ => False

instance (timers : MccTimers D) (P : MccGrpKey → Prop) [DecidablePred P] :
    Decidable (timers.Taken P) :=
  inferInstanceAs (Decidable (∃ timeout ∈ timers.taken, ∃ key ∈ timeout.key, P key))

instance (timers : MccTimers D) : Decidable timers.Forgets :=
  inferInstanceAs (Decidable (∃ timeout ∈ timers.taken, ∃ timer ∈ timeout.timer, _ ∧
    ∃ other ∈ timers.queue.timeoutList, _))

instance (drv : MccDriver D) (timers : MccTimers D) : DecidablePred (timers.Outlived drv) :=
  fun event => by cases event <;> unfold Outlived <;> infer_instance

end MccTimers

/-- What a step should leave. -/
structure MccTimersKept {D : Type*} (after : MccTimers D) : Prop where
  /-- Timers hold flows and groups that are in the lists. -/
  live : ∀ entry, after.Outstanding entry → after.Live entry.timeout
  /-- A group that is in no list has no timer. -/
  gone : ∀ key, ¬ after.core.HasGrp key →
    ∀ entry, after.Outstanding entry → entry.timeout.key ≠ some key

namespace MccTimers

variable {D : Type*} {drv : MccDriver D} {timers after : MccTimers D}

/-! ## The invariant -/

/-- A timer that is to expire is the one of its group. -/
def Owned (timers : MccTimers D) (entry : QueuedTimeout MccTimeout) : Prop :=
  ∀ timer key flw grp, entry.timeout = .group timer key flw grp →
    timers.Live entry.timeout ∧ (timers.grps key).timeoutId timer = entry.timeoutId ∧
      entry.timeoutId ≠ 0

/-- What holds between the steps. -/
structure Sound (timers : MccTimers D) : Prop where
  identified : timers.queue.Identified
  owned : ∀ entry, timers.Outstanding entry → timers.Owned entry

def Free (timers : MccTimers D) (key : MccGrpKey) : Prop :=
  ∀ entry, timers.Outstanding entry → entry.timeout.key ≠ some key

theorem sound_init (dev : D) (now : Nat) : (mccTimersInit dev now).Sound where
  identified := TimeoutQueue.identified_init now
  owned := by
    rintro entry (⟨hentry, _⟩ | htaken)
    · cases hentry
    · cases htaken

variable {key : MccGrpKey}

theorem hasFlw_of_hasGrp {s : MccState D} (h : s.HasGrp key) : s.HasFlw key.flw := by
  have ⟨grp, hgrp⟩ := Option.isSome_iff_exists.mp h
  have ⟨port, hport, hfind⟩ := Option.bind_eq_some_iff.mp hgrp
  have ⟨flw, hflw, _⟩ := Option.bind_eq_some_iff.mp hfind
  exact ⟨port, hport, Option.isSome_iff_exists.mpr ⟨flw, hflw⟩⟩

variable {entry : QueuedTimeout MccTimeout}

theorem owned_of_other (hother : entry.timeout = .other) : timers.Owned entry := by
  intro timer key flw grp hentry
  cases hother.symm.trans hentry

/-! ## The timers alone -/

def Admits (timers : MccTimers D) : QueueEvent MccTimeout → Prop
  | .add timeout _ => timeout = .other ∧ ¬ timers.queue.NextIdInUse
  | _ => True

variable {queue : TimeoutQueue MccTimeout}

theorem Sound.of_queue (h : timers.Sound) (hidentified : queue.Identified)
    (hout : ∀ entry, ({ timers with queue } : MccTimers D).Outstanding entry →
      timers.Outstanding entry ∨ entry.timeout = .other) :
    ({ timers with queue } : MccTimers D).Sound where
  identified := hidentified
  owned entry hentry := by
    rcases hout entry hentry with hbefore | hother
    · exact h.owned entry hbefore
    · exact owned_of_other hother

/-- A step of the timers alone. -/
theorem Sound.stepQueue (h : timers.Sound) (event : QueueEvent MccTimeout)
    (hadd : timers.Admits event) (hstep : timers.stepQueue event = some after) : after.Sound := by
  have ⟨queue, hqueue, hafter⟩ := Option.map_eq_some_iff.mp hstep
  rw [← hafter]
  cases event with
  | tick ms =>
      cases hqueue
      exact h.of_queue ⟨h.identified.distinct, h.identified.owned⟩ fun _ => Or.inl
  | add timeout delay =>
      have ⟨hother, hfree⟩ := hadd
      cases hqueue
      apply h.of_queue (h.identified.add hfree _ _)
      rintro entry (⟨hentry, hthread⟩ | htaken)
      · rcases TimeoutQueue.mem_insertTimeout.mp hentry with rfl | hbefore
        · exact Or.inr hother
        · exact Or.inl (Or.inl ⟨hbefore, hthread⟩)
      · exact Or.inl (Or.inr htaken)
  | remove timeoutId =>
      cases hqueue
      apply h.of_queue (h.identified.remove timeoutId)
      rintro entry (⟨hentry, hthread⟩ | htaken)
      · exact Or.inl (Or.inl ⟨TimeoutQueue.mem_of_mem_locklessEventRemove hentry, hthread⟩)
      · exact Or.inl (Or.inr htaken)
  | poll =>
      simp only [queueStep] at hqueue
      split at hqueue
      · rename_i hwaiting
        split at hqueue
        · cases hqueue
          exact h
        · rename_i first hnext
          cases hqueue
          have hunhandled : ∀ other, timers.queue.thread ≠ .handled other := by
            intro other hhandled
            cases hwaiting.symm.trans hhandled
          apply h.of_queue (h.identified.take hnext)
          rintro entry (⟨hentry, _⟩ | htaken)
          · exact Or.inl (Or.inl ⟨hentry, hunhandled entry⟩)
          · obtain rfl : first = entry := QueueThread.taken.inj htaken
            have hfirst := TimeoutQueue.mem_of_nextActiveEventGet hnext
            exact Or.inl (Or.inl ⟨hfirst, hunhandled first⟩)
      · cases hqueue
  | call =>
      simp only [queueStep] at hqueue
      split at hqueue
      · rename_i entry htaken
        cases hqueue
        apply h.of_queue (h.identified.call htaken)
        rintro other (⟨hother, _⟩ | hthread)
        · have hunhandled : timers.queue.thread ≠ .handled other := by
            intro hhandled
            cases htaken.symm.trans hhandled
          exact Or.inl (Or.inl ⟨hother, hunhandled⟩)
        · cases hthread
      · cases hqueue
  | drop =>
      simp only [queueStep] at hqueue
      split at hqueue
      · rename_i entry hhandled
        cases hqueue
        apply h.of_queue (h.identified.drop entry.timeoutId)
        rintro other (⟨hother, _⟩ | hthread)
        · have hbefore := TimeoutQueue.mem_of_mem_locklessEventRemove hother
          have hunhandled : timers.queue.thread ≠ .handled other := by
            intro hsame
            obtain rfl : entry = other := QueueThread.handled.inj (hhandled.symm.trans hsame)
            exact TimeoutQueue.ne_of_mem_locklessEventRemove h.identified.distinct hother rfl
          exact Or.inl (Or.inl ⟨hbefore, hunhandled⟩)
        · cases hthread
      · cases hqueue

/-! ## Groups -/

theorem Sound.of_core (h : timers.Sound) {core : MccState D}
    (hgrps : ∀ key, ¬ timers.Free key → timers.core.HasGrp key → core.HasGrp key) :
    ({ timers with core } : MccTimers D).Sound where
  identified := h.identified
  owned entry hentry timer key flw grp hdata := by
    have ⟨hlive, hid⟩ := h.owned entry hentry timer key flw grp hdata
    have hheld : ¬ timers.Free key := by
      intro hfree
      apply hfree entry hentry
      rw [hdata, MccTimeout.key]
    rw [hdata] at hlive ⊢
    exact ⟨⟨hgrps key hheld hlive.1, hlive.2⟩, hid⟩

/-- A flow and a group are found or created. -/
theorem Sound.create (h : timers.Sound) (key : MccGrpKey) : (timers.create key).Sound where
  identified := h.identified
  owned entry hentry timer other flw grp hdata := by
    have ⟨hlive, hid, hnonzero⟩ := h.owned entry hentry timer other flw grp hdata
    rw [hdata] at hlive ⊢
    have ⟨hgrp, hflwObject, hgrpObject⟩ := hlive
    have hflws : (timers.create key).flws other.flw = timers.flws other.flw := by
      simp only [MccTimers.create]
      split
      · rfl
      · rename_i hnone
        apply Function.update_of_ne
        intro hsame
        exact hnone (hsame ▸ hasFlw_of_hasGrp hgrp)
    have hgrps : (timers.create key).grps other = timers.grps other := by
      simp only [MccTimers.create]
      split
      · rfl
      · rename_i hnone
        apply Function.update_of_ne
        rintro rfl
        exact hnone hgrp
    have hobject : ((timers.create key).grps other).object = grp := hgrps ▸ hgrpObject
    have hid' : ((timers.create key).grps other).timeoutId timer = entry.timeoutId := hgrps ▸ hid
    exact ⟨⟨hgrp, hflws.trans hflwObject, hobject⟩, hid', hnonzero⟩

theorem mem_of_mem_removeTimeout {timeoutId : BitVec 32}
    (hentry : entry ∈ (removeTimeout queue timeoutId).timeoutList) : entry ∈ queue.timeoutList := by
  unfold removeTimeout at hentry
  split at hentry
  · exact hentry
  · exact TimeoutQueue.mem_of_mem_locklessEventRemove hentry

theorem ne_of_mem_removeTimeout (hqueue : queue.Identified)
    {timeoutId : BitVec 32} (hnonzero : entry.timeoutId ≠ 0)
    (hentry : entry ∈ (removeTimeout queue timeoutId).timeoutList) : timeoutId ≠ entry.timeoutId := by
  unfold removeTimeout at hentry
  split at hentry
  · rename_i hzero
    exact hzero ▸ hnonzero.symm
  · exact (TimeoutQueue.ne_of_mem_locklessEventRemove hqueue.distinct hentry).symm

@[simp]
theorem thread_removeTimeout (queue : TimeoutQueue MccTimeout) (timeoutId : BitVec 32) :
    (removeTimeout queue timeoutId).thread = queue.thread := by
  unfold removeTimeout
  split <;> rfl

theorem identified_removeTimeout (hqueue : queue.Identified)
    (timeoutId : BitVec 32) : (removeTimeout queue timeoutId).Identified := by
  unfold removeTimeout
  split
  · exact hqueue
  · exact hqueue.remove timeoutId

@[simp]
theorem thread_disarm (timers : MccTimers D) (key : MccGrpKey) :
    (timers.disarm key).queue.thread = timers.queue.thread := by
  simp only [MccTimers.disarm, thread_removeTimeout]

theorem outstanding_of_disarm
    (h : (timers.disarm key).Outstanding entry) : timers.Outstanding entry := by
  rcases h with ⟨hentry, hthread⟩ | htaken
  · have hbefore := mem_of_mem_removeTimeout (mem_of_mem_removeTimeout hentry)
    rw [thread_disarm] at hthread
    exact Or.inl ⟨hbefore, hthread⟩
  · rw [thread_disarm] at htaken
    exact Or.inr htaken

/-- The timers of a group are removed, and the thread has taken none of them. -/
theorem Sound.disarm (h : timers.Sound) (htaken : ¬ timers.Taken (· = key)) :
    (timers.disarm key).Sound ∧ (timers.disarm key).Free key := by
  have hfree : (timers.disarm key).Free key := by
    intro entry hentry hkey
    cases hdata : entry.timeout with
    | other =>
        rw [hdata] at hkey
        cases hkey
    | group timer other flw grp =>
        rw [hdata, MccTimeout.key] at hkey
        obtain rfl := Option.some.inj hkey
        have ⟨_, hid, hnonzero⟩ :=
          h.owned entry (outstanding_of_disarm hentry) timer other flw grp hdata
        rcases hentry with ⟨hentry, _⟩ | hthread
        · have hact := identified_removeTimeout h.identified (timers.grps other).actTimeoutId
          cases timer with
          | activity =>
              have hbetween := mem_of_mem_removeTimeout hentry
              exact ne_of_mem_removeTimeout h.identified hnonzero hbetween hid
          | ageing => exact ne_of_mem_removeTimeout hact hnonzero hentry hid
        · rw [thread_disarm] at hthread
          have htimeout : timers.taken = some entry.timeout := by
            rw [MccTimers.taken, hthread]
          exact htaken ⟨_, htimeout, other, hdata ▸ rfl, rfl⟩
  have hsound : (timers.disarm key).Sound := {
    identified := identified_removeTimeout (identified_removeTimeout h.identified _) _
    owned := fun entry hentry timer other flw grp hdata => by
      have hother : other ≠ key := by
        rintro rfl
        apply hfree entry hentry
        rw [hdata, MccTimeout.key]
      have hgrps : (timers.disarm key).grps other = timers.grps other :=
        Function.update_of_ne hother _ _
      have hbefore := h.owned entry (outstanding_of_disarm hentry) timer other flw grp hdata
      rw [hdata, Live] at hbefore ⊢
      rw [hgrps]
      exact hbefore }
  exact ⟨hsound, hfree⟩

/-- The timers of several groups are removed. -/
theorem Sound.disarms (h : timers.Sound) {keys : List MccGrpKey}
    (htaken : ∀ key ∈ keys, ¬ timers.Taken (· = key)) : (keys.foldl MccTimers.disarm timers).Sound ∧
      ∀ key, key ∈ keys ∨ timers.Free key → (keys.foldl MccTimers.disarm timers).Free key := by
  induction keys generalizing timers with
  | nil =>
      have hfree : ∀ key, key ∈ [] ∨ timers.Free key → timers.Free key := by
        intro key hkey
        exact hkey.resolve_left List.not_mem_nil
      exact ⟨h, hfree⟩
  | cons first rest ih =>
      have ⟨hsound, hfirst⟩ := h.disarm (htaken first List.mem_cons_self)
      have hrest : ∀ key ∈ rest, ¬ (timers.disarm first).Taken (· = key) := by
        intro key hkey
        have hbefore := htaken key (List.mem_cons_of_mem _ hkey)
        simpa only [Taken, taken, thread_disarm] using hbefore
      have ⟨hall, hfree⟩ := ih hsound hrest
      have hkeys : ∀ key, key ∈ first :: rest ∨ timers.Free key →
          (rest.foldl MccTimers.disarm (timers.disarm first)).Free key := by
        intro key hkey
        apply hfree
        rcases hkey with hin | hbefore
        · rcases List.mem_cons.mp hin with rfl | hin
          · exact Or.inr hfirst
          · exact Or.inl hin
        · exact Or.inr fun entry hentry => hbefore entry (outstanding_of_disarm hentry)
      exact ⟨hall, hkeys⟩

/-- Another timer gets an identifier. -/
theorem Owned.setTimeoutId (h : timers.Owned entry)
    {timer : MccGrpTimer} (hother : entry.timeout.timer ≠ some (timer, key))
    (timeoutId : BitVec 32) : (timers.setTimeoutId timer key timeoutId).Owned entry := by
  intro other otherKey flw grp hdata
  have howned := h other otherKey flw grp hdata
  rw [hdata, MccTimeout.timer] at hother
  rw [hdata, Live] at howned ⊢
  simp only [MccTimers.setTimeoutId]
  by_cases hkey : otherKey = key
  · obtain rfl := hkey
    have htimer : other ≠ timer := fun hsame => hother (hsame ▸ rfl)
    rw [Function.update_self, MccGrpObject.timeoutId_setTimeoutId, if_neg htimer,
      MccGrpObject.object_setTimeoutId]
    exact howned
  · rw [Function.update_of_ne hkey]
    exact howned

/-- A group gets a timer that it does not have. -/
theorem Sound.arm (h : timers.Sound) {timer : MccGrpTimer} (hgrp : timers.core.HasGrp key)
    (hnone : ∀ entry, timers.Outstanding entry → entry.timeout.timer ≠ some (timer, key))
    (hfree : ¬ timers.queue.NextIdInUse) (delay : Int) : (timers.arm timer key delay).Sound where
  identified := h.identified.add hfree _ _
  owned entry hentry other otherKey flw grp hdata := by
    have hnew : entry = timers.queue.newEntry
        (.group timer key (timers.flws key.flw) (timers.grps key).object) delay ∨
        timers.Outstanding entry := by
      rcases hentry with ⟨hentry, hthread⟩ | htaken
      · rcases TimeoutQueue.mem_insertTimeout.mp hentry with hnew | hbefore
        · exact Or.inl hnew
        · exact Or.inr (Or.inl ⟨hbefore, hthread⟩)
      · exact Or.inr (Or.inr htaken)
    rcases hnew with rfl | hbefore
    · obtain ⟨rfl, rfl, rfl, rfl⟩ := MccTimeout.group.inj hdata
      have hgrps : (timers.arm timer key delay).grps key = (timers.grps key).setTimeoutId timer
          (TimeoutState.nextTimeoutId timers.queue.lastTimeoutId) := Function.update_self _ _ _
      rw [hdata, Live, hgrps, MccGrpObject.timeoutId_setTimeoutId, if_pos rfl,
        MccGrpObject.object_setTimeoutId]
      exact ⟨⟨hgrp, rfl, rfl⟩, rfl, TimeoutQueue.nextTimeoutId_ne_zero _⟩
    · have howned := (h.owned entry hbefore).setTimeoutId (hnone entry hbefore)
        (TimeoutState.nextTimeoutId timers.queue.lastTimeoutId)
      exact howned other otherKey flw grp hdata

/-! ## The core -/

theorem Sound.change (h : timers.Sound) {op : MccFlowOp} (htaken : ¬ timers.Taken (· = op.key))
    (drv : MccDriver D) (bridgeInfo : Nat → Option (BitVec 16)) :
    (timers.change drv bridgeInfo op).Sound ∧ (timers.change drv bridgeInfo op).Free op.key := by
  have ⟨hsound, hfree⟩ := (h.create op.key).disarm htaken
  have hgrps : ∀ key, ¬ ((timers.create op.key).disarm op.key).Free key →
      timers.core.HasGrp key → (mccApply drv bridgeInfo timers.core op).1.HasGrp key := by
    intro key hheld hgrp
    have hkey : key ≠ op.key := by
      rintro rfl
      exact hheld hfree
    have ⟨grp, hfound⟩ := Option.isSome_iff_exists.mp hgrp
    exact Option.isSome_iff_exists.mpr ⟨grp, grp_mccApply_of_ne hkey hfound⟩
  exact ⟨hsound.of_core hgrps, hfree⟩

/-- A change of a client. -/
theorem Sound.apply (h : timers.Sound) {bridgeInfo : Nat → Option (BitVec 16)} {op : MccFlowOp}
    (htaken : ¬ timers.Taken (· = op.key))
    (hnext : (timers.change drv bridgeInfo op).Dynamic op.key →
      ¬ (timers.change drv bridgeInfo op).queue.NextIdInUse) :
    (timers.apply drv bridgeInfo op).Sound := by
  have ⟨hsound, hfree⟩ := h.change htaken drv bridgeInfo
  simp only [MccTimers.apply]
  split
  · rename_i hdynamic
    have ⟨grp, hgrp, _⟩ := hdynamic
    have hnone : ∀ entry, (timers.change drv bridgeInfo op).Outstanding entry →
        entry.timeout.timer ≠ some (.activity, op.key) := by
      intro entry hentry htimer
      apply hfree entry hentry
      cases hdata : entry.timeout with
      | other =>
          rw [hdata] at htimer
          cases htimer
      | group timer key flw grp =>
          rw [hdata] at htimer
          exact congrArg (Option.map Prod.snd) htimer
    exact hsound.arm (Option.isSome_iff_exists.mpr ⟨grp, hgrp⟩) hnone (hnext hdynamic) _
  · exact hsound

/-- A query comes to a group without an ageing timer. -/
theorem Sound.qryGrp (h : timers.Sound) (hgrp : timers.core.HasGrp key)
    (hzero : (timers.grps key).ageTimeoutId = 0) (hnext : ¬ timers.queue.NextIdInUse)
    (agingToMs : BitVec 32) : (timers.qryGrp key agingToMs).Sound := by
  have hsound : ({ timers with
      core := { timers.core with ageing := key :: timers.core.ageing } } : MccTimers D).Sound :=
    h.of_core fun _ _ hsame => hsame
  apply hsound.arm hgrp _ hnext
  intro entry hentry htimer
  cases hdata : entry.timeout with
  | other =>
      rw [hdata] at htimer
      cases htimer
  | group timer other flw grp =>
      rw [hdata, MccTimeout.timer] at htimer
      cases htimer
      have ⟨_, hid, hnonzero⟩ := h.owned entry hentry _ _ _ _ hdata
      exact hnonzero (hid.symm.trans hzero)

theorem mem_grpKeys {s : MccState D} (hgrp : s.HasGrp key) : key ∈ s.grpKeys key.port := by
  have ⟨grp, hfound⟩ := Option.isSome_iff_exists.mp hgrp
  have ⟨port, hport, hfind⟩ := Option.bind_eq_some_iff.mp hfound
  have ⟨flw, hflw, hmember⟩ := Option.bind_eq_some_iff.mp hfind
  have hid : flw.id = key.fid := key_findKey hflw
  have hda : grp.da = key.da := key_findKey hmember
  simp only [MccState.grpKeys, hport, List.mem_flatMap, List.mem_map]
  have hkey : (⟨key.port, flw.id, grp.da⟩ : MccGrpKey) = key := by
    rw [hid, hda]
  exact ⟨flw, mem_findKey hflw, grp, mem_findKey hmember, hkey⟩

theorem core_disarms (keys : List MccGrpKey) :
    (keys.foldl MccTimers.disarm timers).core = timers.core := by
  induction keys generalizing timers with
  | nil => rfl
  | cons first rest ih => exact ih

/-- A port is deleted. -/
theorem Sound.portReset (h : timers.Sound) {port : Nat} (htaken : ¬ timers.Taken (·.port = port)) :
    (timers.portReset drv port).Sound := by
  have hkeys : ∀ key ∈ timers.core.grpKeys port, ¬ timers.Taken (· = key) := by
    rintro key hkey ⟨timeout, htimeout, other, hother, rfl⟩
    have hport : other.port = port := by
      unfold MccState.grpKeys at hkey
      split at hkey
      · cases hkey
      · have ⟨fe, _, hmap⟩ := List.mem_flatMap.mp hkey
        have ⟨ge, _, hsame⟩ := List.mem_map.mp hmap
        rw [← hsame]
    exact htaken ⟨timeout, htimeout, other, hother, hport⟩
  have ⟨hsound, hfree⟩ := h.disarms hkeys
  apply hsound.of_core
  intro key hheld hgrp
  rw [core_disarms] at hgrp
  have hport : port ≠ key.port := by
    rintro rfl
    exact hheld (hfree key (Or.inl (mem_grpKeys hgrp)))
  have hsame : (mccPortReset drv timers.core port).grp key = timers.core.grp key := by
    unfold mccPortReset
    cases timers.core.ports[port]? with
    | none => rfl
    | some entry => simp only [MccState.grp, ports_ioctls, List.getElem?_set_ne hport]
  rw [MccState.HasGrp, hsame]
  exact hgrp

/-- Another group stays when one is too old. -/
theorem grp_mccGrpAgingTimeoutHandler {s : MccState D} {other : MccGrpKey} (hne : other ≠ key) :
    (mccGrpAgingTimeoutHandler drv s key).grp other = s.grp other := by
  simp only [MccState.grp, mccGrpAgingTimeoutHandler, ports_mccIoctl, List.getElem?_modify]
  cases s.ports[other.port]? with
  | none => rfl
  | some port =>
      simp only [Option.bind_some]
      split
      · rename_i hport
        apply grp_mccPortAging
        intro hsame
        obtain ⟨hfid, hda⟩ := Prod.mk.inj hsame
        apply hne
        cases key
        cases other
        simp_all
      · rfl

/-- The handler of a timer that is no longer pending; the other one of a group that it deletes is
not pending either. -/
theorem Sound.handle (h : timers.Sound) {timeout : MccTimeout}
    (hnone : ∀ entry, timers.Outstanding entry → ∀ timer ∈ timeout.timer,
      entry.timeout.timer ≠ some timer)
    (hother : ∀ entry, timers.Outstanding entry → ∀ timer ∈ timeout.timer, timer.1 = .ageing →
      entry.timeout.timer ≠ some (.activity, timer.2)) : (timers.handle drv timeout).Sound := by
  cases timeout with
  | other => exact h
  | group timer key flw grp =>
      simp only [MccTimers.handle]
      split
      · have hcleared : (timers.setTimeoutId timer key 0).Sound :=
          ⟨h.identified, fun entry hentry =>
            (h.owned entry hentry).setTimeoutId (hnone entry hentry (timer, key) rfl) 0⟩
        cases timer with
        | activity => exact hcleared
        | ageing =>
            apply hcleared.of_core
            intro other hheld hgrp
            have hne : other ≠ key := by
              rintro rfl
              apply hheld
              intro entry hentry hkey
              have hageing := hnone entry hentry (.ageing, other) rfl
              have hactivity := hother entry hentry (.ageing, other) rfl rfl
              cases hdata : entry.timeout with
              | other =>
                  rw [hdata] at hkey
                  cases hkey
              | group timer third flw grp =>
                  rw [hdata] at hkey hageing hactivity
                  cases hkey
                  cases timer with
                  | activity => exact hactivity rfl
                  | ageing => exact hageing rfl
            rw [MccState.HasGrp, grp_mccGrpAgingTimeoutHandler hne]
            exact hgrp
      · exact h

/-- The thread calls a handler. -/
theorem Sound.call (h : timers.Sound)
    (htaken : timers.queue.thread = .taken entry) (hkept : ¬ timers.Forgets)
    (hstep : timers.stepQueue .call = some after) : (after.handle drv entry.timeout).Sound := by
  have hsound : after.Sound := h.stepQueue .call trivial hstep
  obtain ⟨queue, hqueue, hafter⟩ := Option.map_eq_some_iff.mp hstep
  simp only [queueStep, htaken, Option.some.injEq] at hqueue
  have hout : ∀ other, after.Outstanding other →
      other ∈ timers.queue.timeoutList ∧ other ≠ entry := by
    rw [← hafter, ← hqueue]
    rintro other (⟨hother, hthread⟩ | hthread)
    · exact ⟨hother, fun hsame => hthread (congrArg QueueThread.handled hsame.symm)⟩
    · cases hthread
  have htimeout : timers.taken = some entry.timeout := by
    rw [taken, htaken]
  have hbefore : ∀ other ∈ timers.queue.timeoutList, timers.Owned other := by
    intro other hother
    apply h.owned other (Or.inl ⟨hother, _⟩)
    rw [htaken]
    exact fun h => by cases h
  apply hsound.handle
  · intro other hother timer htimer hsame
    obtain ⟨hlist, hne⟩ := hout other hother
    cases hdata : entry.timeout with
    | other =>
        rw [hdata] at htimer
        cases htimer
    | group mine key flw grp =>
        rw [hdata] at htimer
        obtain rfl : (mine, key) = timer := Option.some.inj htimer
        cases hotherData : other.timeout with
        | other =>
            rw [hotherData] at hsame
            cases hsame
        | group third otherKey otherFlw otherGrp =>
            rw [hotherData] at hsame
            obtain ⟨rfl, rfl⟩ : third = mine ∧ otherKey = key :=
              Prod.mk.inj (Option.some.inj hsame)
            have hid := (h.owned entry (Or.inr htaken) _ _ _ _ hdata).2.1
            have hotherId := (hbefore other hlist _ _ _ _ hotherData).2.1
            have hentry : entry ∈ timers.queue.thread.entry := htaken ▸ rfl
            exact hne (h.identified.owned entry hentry other hlist (hotherId.symm.trans hid))
  · intro other hother timer htimer hageing hactivity
    obtain ⟨hlist, _⟩ := hout other hother
    exact hkept ⟨entry.timeout, htimeout, timer, htimer, hageing, other, hlist, hactivity⟩

/-! ## Steps and runs -/

/-- A step after which no timer outlives its group. -/
theorem Sound.step (h : timers.Sound) {event : MccTimersEvent}
    (hkept : ¬ timers.Outlived drv event) (hstep : mccTimersStep drv timers event = some after) :
    after.Sound := by
  cases event with
  | tick ms => exact h.stepQueue (.tick ms) trivial hstep
  | add delay => exact h.stepQueue (.add .other delay) ⟨rfl, hkept⟩ hstep
  | remove timeoutId => exact h.stepQueue (.remove timeoutId) trivial hstep
  | poll => exact h.stepQueue .poll trivial hstep
  | call =>
      simp only [mccTimersStep] at hstep
      split at hstep
      · rename_i entry htaken
        have ⟨called, hcalled, hafter⟩ := Option.map_eq_some_iff.mp hstep
        exact hafter ▸ h.call htaken hkept hcalled
      · cases hstep
  | drop => exact h.stepQueue .drop trivial hstep
  | apply bridgeInfo op =>
      have htaken : ¬ timers.Taken (· = op.key) := fun hin => hkept (Or.inl hin)
      have hnext : (timers.change drv bridgeInfo op).Dynamic op.key →
          ¬ (timers.change drv bridgeInfo op).queue.NextIdInUse :=
        fun hdynamic hin => hkept (Or.inr ⟨hdynamic, hin⟩)
      exact Option.some.inj hstep ▸ h.apply htaken hnext
  | qryGrp key agingToMs =>
      have ⟨⟨hgrp, hzero, _⟩, hafter⟩ := Option.ite_none_right_eq_some.mp hstep
      exact Option.some.inj hafter ▸ h.qryGrp hgrp hzero hkept agingToMs
  | portReset port => exact Option.some.inj hstep ▸ h.portReset hkept

/-- It leaves what it should. -/
theorem Sound.kept (h : timers.Sound) : MccTimersKept timers where
  live entry hentry := by
    cases hdata : entry.timeout with
    | other => exact trivial
    | group timer key flw grp => exact hdata ▸ (h.owned entry hentry timer key flw grp hdata).1
  gone key hgone entry hentry hkey := by
    cases hdata : entry.timeout with
    | other =>
        rw [hdata] at hkey
        cases hkey
    | group timer other flw grp =>
        have hlive := (h.owned entry hentry timer other flw grp hdata).1
        rw [hdata] at hkey hlive
        obtain rfl : other = key := Option.some.inj hkey
        exact hgone hlive.1

end MccTimers

/-- In every run in which no ageing timer deletes a group whose activity timer is pending, no
change and no deletion of a port comes for a group whose timer the thread has taken, and no
identifier is given out that is in use, all timers hold flows and groups that are in the lists. -/
theorem mccTimers_kept {D : Type*} (drv : MccDriver D) (dev : D) (now : Nat)
    (events : List MccTimersEvent)
    (hkept : Along (mccTimersStep drv) (fun before event _ => ¬ before.Outlived drv event)
      (mccTimersInit dev now) events) :
    Along (mccTimersStep drv) (fun _ _ after => MccTimersKept after) (mccTimersInit dev now)
      events := by
  apply Along.of_guard _ (MccTimers.sound_init dev now) hkept
  intro before event after hbefore hguard hstep
  have hafter := hbefore.step hguard hstep
  exact ⟨hafter.kept, hafter⟩

def idleDriver : MccDriver Unit where
  ioctl _ _ := some ()
  Forwards _ _ _ _ := True

def sampleJoined (agingToMs : BitVec 32) : List MccTimersEvent :=
  [.apply (fun _ => some 5) (groupFlow.op 0 1 true false 0),
    .qryGrp ⟨0, 1, mccIpAddrGet 0xe1000001⟩ agingToMs]

def sampleRound (ms : Nat) : List MccTimersEvent :=
  [.tick ms, .poll, .call, .drop]

/-- Both timers expire, the activity timer first. -/
theorem mccTimers_kept_expired :
    Along (mccTimersStep idleDriver) (fun _ _ after => MccTimersKept after) (mccTimersInit () 0)
      (sampleJoined 260000 ++ sampleRound 10000 ++ sampleRound 250000) :=
  mccTimers_kept idleDriver () 0 _ (by decide)

/-- The group is deleted after 1.1 seconds, and its activity timer is pending. -/
theorem mccTimers_not_kept :
    ¬ ∀ (events : List MccTimersEvent),
      Along (mccTimersStep idleDriver) (fun _ _ after => MccTimersKept after) (mccTimersInit () 0)
        events := by
  intro hall
  have hlive : Along (mccTimersStep idleDriver) (fun _ _ after =>
      ∀ entry ∈ after.queue.timeoutList, after.queue.thread ≠ .handled entry →
        after.Live entry.timeout) (mccTimersInit () 0) (sampleJoined 1100 ++ sampleRound 1100) :=
    (hall _).mono fun _ _ _ hkept entry hentry hthread => hkept.live entry (Or.inl ⟨hentry, hthread⟩)
  revert hlive
  decide

end FalconGpon.Mcc
