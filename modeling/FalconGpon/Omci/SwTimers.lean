/-
# The download timer of a software image

START_DL arms a timer of fifteen minutes that holds the entity as `arg1`, and removes the one
armed before; END_DL removes it, and its handler frees the data of the download. `me_shutdown`
frees the entity without removing the timer. The entities and their handlers are those of
`SwImages`, the timers those of `TimeoutQueue`; entities and downloads are numbered, so that an
entity is told from one that is created in its place.
-/

import FalconGpon.Omci.SwBuffer
import FalconGpon.Omci.TimeoutQueue

namespace FalconGpon.Omci

open FalconGpon.Lib

/-! ## Entities and timers -/

/-- `OMCI_SWIMAGE_DOWNLOAD_TIMEOUT`. -/
def omciSwimageDownloadTimeout : Int := 60 * 15 * 1000

/-- A timer. -/
inductive SwTimeout
  /-- `data_clean_timeout_handle` for an entity, armed by one of its downloads. -/
  | dataClean (instanceId : InstanceId) (object download : Nat)
  /-- Timers of other modules. -/
  | other
deriving DecidableEq

def SwTimeout.object : SwTimeout → Option Nat
  | .dataClean _ object _ => some object
  | .other => none

/-- An entity in the MIB. -/
structure SwObject where
  object : Nat
  /-- `timeout_id`. -/
  timeoutId : BitVec 32
  /-- The download that has armed the timer, until it ends or the timer expires. -/
  download : Option Nat

/-- The Software Image entities and the timers. -/
structure SwTimers where
  images : SwImages
  objects : InstanceId → Option SwObject
  /-- How many entities were created. -/
  created : Nat
  /-- How many downloads have armed a timer. -/
  started : Nat
  queue : TimeoutQueue SwTimeout

namespace SwTimers

/-- Remove the timer of an entity. -/
def disarm (timers : SwTimers) (instanceId : InstanceId) (obj : SwObject) : SwTimers :=
  { timers with
    queue := timers.queue.timeoutEventRemove obj.timeoutId
    objects := Function.update timers.objects instanceId (some { obj with download := none }) }

/-- Add a timer for an entity. -/
def arm (timers : SwTimers) (instanceId : InstanceId) (obj : SwObject) : SwTimers :=
  { timers with
    queue := timers.queue.timeoutEventAdd (.dataClean instanceId obj.object timers.started)
      omciSwimageDownloadTimeout
    objects := Function.update timers.objects instanceId (some
      { obj with
        timeoutId := TimeoutState.nextTimeoutId timers.queue.lastTimeoutId
        download := some timers.started })
    started := timers.started + 1 }

/-- The timers after START_DL, which leaves `images`. -/
def startDl (timers : SwTimers) (instanceId : InstanceId) (obj : SwObject) (images : SwImages) :
    SwTimers :=
  let disarmed := { timers.disarm instanceId obj with images }
  if (images.me instanceId).any (·.timeout) then disarmed.arm instanceId obj else disarmed

/-- The timers after END_DL; it keeps the timer unless a download is going on. -/
def endDl (timers : SwTimers) (instanceId : InstanceId) (obj : SwObject) (images : SwImages) :
    SwTimers :=
  if (timers.images.me instanceId).any (·.status = .downloading) then
    { timers.disarm instanceId obj with images }
  else { timers with images }

/-- `data_clean_timeout_handle`. An entity that is gone is memory that was freed; what the
handler does there is left out. -/
def dataClean (timers : SwTimers) : SwTimeout → SwTimers
  | .dataClean instanceId object _ =>
      match timers.objects instanceId, timers.images.me instanceId with
      | some obj, some me =>
          if obj.object = object then
            { timers with
              images := dataCleanTimeoutHandle timers.images instanceId me
              objects := Function.update timers.objects instanceId
                (some { obj with timeoutId := 0, download := none }) }
          else timers
      | _, _ => timers
  | .other => timers

/-- `mib_me_create`, with `me_init`. -/
def create (timers : SwTimers) (instanceId : InstanceId) (attrs : OmciMeSwImage) : SwTimers :=
  { timers with
    images := timers.images.set instanceId (.meInit attrs)
    objects := Function.update timers.objects instanceId (some ⟨timers.created, 0, none⟩)
    created := timers.created + 1 }

/-- `mib_me_delete`, with `me_shutdown`. -/
def delete (timers : SwTimers) (instanceId : InstanceId) : SwTimers :=
  { timers with
    images := { timers.images with me := Function.update timers.images.me instanceId none }
    objects := Function.update timers.objects instanceId none }

end SwTimers

def SwImageEvent.timed : SwImageEvent → Bool
  | .startDl _ _ _ | .endDl _ _ _ | .timeout _ => true
  | _ => false

/-- Time passes, the timeout thread goes on, a request is handled, or the MIB is destroyed and
built again. -/
inductive SwTimersEvent
  | tick (ms : Nat)
  /-- Another module adds or removes a timer. -/
  | add (delay : Int)
  | remove (timeoutId : BitVec 32)
  | poll
  | call
  | drop
  | startDl (instanceId : InstanceId) (env : SwImageEnv) (msg : OmciMsg)
  | endDl (instanceId : InstanceId) (env : SwImageEnv) (msg : OmciMsg)
  /-- What else happens to the entities. -/
  | image (event : SwImageEvent)
  | create (instanceId : InstanceId) (attrs : OmciMeSwImage)
  | delete (instanceId : InstanceId)

def SwTimers.stepQueue (timers : SwTimers) (event : QueueEvent SwTimeout) : Option SwTimers :=
  (queueStep timers.queue event).map fun queue => { timers with queue }

/-- A step. -/
def swTimersStep (timers : SwTimers) : SwTimersEvent → Option SwTimers
  | .tick ms => timers.stepQueue (.tick ms)
  | .add delay => timers.stepQueue (.add .other delay)
  | .remove timeoutId => timers.stepQueue (.remove timeoutId)
  | .poll => timers.stepQueue .poll
  | .call =>
      match timers.queue.thread with
      | .taken entry => (timers.stepQueue .call).map fun after => after.dataClean entry.timeout
      | _ => none
  | .drop => timers.stepQueue .drop
  | .startDl inst env msg =>
      match timers.objects inst, swImageStep timers.images (.startDl inst env msg) with
      | some obj, some images => some (timers.startDl inst obj images)
      | _, _ => none
  | .endDl inst env msg =>
      match timers.objects inst, swImageStep timers.images (.endDl inst env msg) with
      | some obj, some images => some (timers.endDl inst obj images)
      | _, _ => none
  | .image event =>
      if event.timed then none
      else (swImageStep timers.images event).map fun images => { timers with images }
  | .create inst attrs =>
      match timers.objects inst with
      | none => some (timers.create inst attrs)
      | some _ => none
  | .delete inst => (timers.objects inst).map fun _ => timers.delete inst

/-- Before the MIB is built. -/
def swTimersInit (now : Nat) : SwTimers where
  images := swImagesInit fun _ => none
  objects _ := none
  created := 0
  started := 0
  queue := timeoutQueueInit now

/-! ## What is asked of them -/

namespace SwTimers

/-- The thread has taken the timer of the entity and not called its handler yet. -/
def Taken (timers : SwTimers) (object : Nat) : Prop :=
  match timers.queue.thread with
  | .taken entry => entry.timeout.object = some object
  | _ => False

def Pending (timers : SwTimers) (object : Nat) : Prop :=
  ∃ entry ∈ timers.queue.timeoutList,
    timers.queue.thread ≠ .handled entry ∧ entry.timeout.object = some object

/-- The step deletes an entity whose timer is to expire, or starts a download anew when the
thread has taken the old timer; or an identifier is given out that is in use. -/
def Outlived (timers : SwTimers) : SwTimersEvent → Prop
  | .delete inst => ∃ obj ∈ timers.objects inst, timers.Pending obj.object ∨ timers.Taken obj.object
  | .startDl inst _ _ => ∃ obj ∈ timers.objects inst,
      timers.Taken obj.object ∨ (timers.queue.timeoutEventRemove obj.timeoutId).NextIdInUse
  | .add _ => timers.queue.NextIdInUse
  | _ => False

instance (timers : SwTimers) : DecidablePred timers.Taken := fun object => by
  unfold Taken
  cases timers.queue.thread <;> infer_instance

instance (timers : SwTimers) : DecidablePred timers.Pending := fun _ =>
  inferInstanceAs (Decidable (∃ entry ∈ timers.queue.timeoutList, _ ∧ _))

instance (timers : SwTimers) : DecidablePred timers.Outlived := fun event => by
  cases event <;> unfold Outlived <;> infer_instance

end SwTimers

/-- What a step should keep to. -/
structure SwTimersKept (before : SwTimers) (event : SwTimersEvent) (after : SwTimers) : Prop where
  /-- A timer that is to expire holds an entity in the MIB, and its download is the one that has
  armed the timer. -/
  live : ∀ entry ∈ after.queue.timeoutList, after.queue.thread ≠ .handled entry →
    ∀ inst object download, entry.timeout = .dataClean inst object download →
      ∃ obj, after.objects inst = some obj ∧ obj.object = object ∧ obj.download = some download
  /-- A handler is called for an entity in the MIB, and for no later download. -/
  expiry : event = .call → ∀ entry, before.queue.thread = .taken entry →
    ∀ inst object download, entry.timeout = .dataClean inst object download →
      ∃ obj, before.objects inst = some obj ∧ obj.object = object ∧
        ∀ current, obj.download = some current → current = download

namespace SwTimers

variable {timers after : SwTimers}

/-! ## The invariant -/

/-- A timer that is to expire is the one of its entity. -/
def Holds (timers : SwTimers) (entry : QueuedTimeout SwTimeout) : Prop :=
  ∀ inst object download, entry.timeout = .dataClean inst object download →
    ∃ obj, timers.objects inst = some obj ∧ obj.object = object ∧
      obj.download = some download ∧ obj.timeoutId = entry.timeoutId

/-- A timer that the thread has taken is that of its entity, unless END_DL has come since. -/
def MayHold (timers : SwTimers) (entry : QueuedTimeout SwTimeout) : Prop :=
  ∀ inst object download, entry.timeout = .dataClean inst object download →
    ∃ obj, timers.objects inst = some obj ∧ obj.object = object ∧
      ∀ current, obj.download = some current →
        current = download ∧ obj.timeoutId = entry.timeoutId

/-- What holds between the steps. -/
structure Sound (timers : SwTimers) : Prop where
  identified : timers.queue.Identified
  pending : ∀ entry ∈ timers.queue.timeoutList, timers.queue.thread ≠ .handled entry →
    timers.Holds entry
  taken : ∀ entry, timers.queue.thread = .taken entry → timers.MayHold entry

theorem sound_init (now : Nat) : (swTimersInit now).Sound where
  identified := TimeoutQueue.identified_init now
  pending := nofun
  taken := nofun

variable {entry : QueuedTimeout SwTimeout}

theorem holds_of_other (hother : entry.timeout = .other) : timers.Holds entry := by
  intro inst object download hentry
  rw [hother] at hentry
  cases hentry

theorem Holds.mayHold (h : timers.Holds entry) : timers.MayHold entry := by
  intro inst object download hentry
  have ⟨obj, hobj, hobject, hdownload, hid⟩ := h inst object download hentry
  have hsame : ∀ current, obj.download = some current →
      current = download ∧ obj.timeoutId = entry.timeoutId := by
    intro current hcurrent
    exact ⟨Option.some.inj (hcurrent.symm.trans hdownload), hid⟩
  exact ⟨obj, hobj, hobject, hsame⟩

variable {inst : InstanceId} {obj : SwObject}

theorem MayHold.taken (h : timers.MayHold entry)
    (htaken : timers.queue.thread = .taken entry) {object download : Nat}
    (hentry : entry.timeout = .dataClean inst object download)
    (hobj : timers.objects inst = some obj) : timers.Taken obj.object := by
  have ⟨found, hfound, hobject, _⟩ := h inst object download hentry
  obtain rfl : obj = found := Option.some.inj (hobj.symm.trans hfound)
  simp only [Taken, htaken, hentry, SwTimeout.object, hobject]

/-! ## The timers alone -/

section Kept

variable (h : timers.Sound)
include h

theorem Sound.tick (ms : Nat) :
    ({ timers with queue := { timers.queue with now := timers.queue.now + ms } } :
      SwTimers).Sound where
  identified := ⟨h.identified.distinct, h.identified.owned⟩
  pending := h.pending
  taken := h.taken

theorem Sound.add (hfree : ¬ timers.queue.NextIdInUse) (delay : Int) :
    ({ timers with queue := timers.queue.timeoutEventAdd .other delay } : SwTimers).Sound where
  identified := h.identified.add hfree _ _
  pending entry hentry hthread := by
    rcases TimeoutQueue.mem_insertTimeout.mp hentry with rfl | hentry
    · exact holds_of_other rfl
    · exact h.pending entry hentry hthread
  taken := h.taken

theorem Sound.remove (timeoutId : BitVec 32) :
    ({ timers with queue := timers.queue.timeoutEventRemove timeoutId } : SwTimers).Sound where
  identified := h.identified.remove timeoutId
  pending entry hentry := h.pending entry (TimeoutQueue.mem_of_mem_locklessEventRemove hentry)
  taken := h.taken

/-- The thread takes a timer, or sleeps. -/
theorem Sound.poll (hstep : timers.stepQueue .poll = some after) :
    after.Sound := by
  have ⟨queue, hqueue, hafter⟩ := Option.map_eq_some_iff.mp hstep
  rw [← hafter]
  simp only [queueStep] at hqueue
  split at hqueue
  · rename_i hwaiting
    split at hqueue
    · exact Option.some.inj hqueue ▸ h
    · rename_i entry hnext
      have hentry := TimeoutQueue.mem_of_nextActiveEventGet hnext
      have hunhandled : ∀ other, timers.queue.thread ≠ .handled other := by
        intro other hhandled
        rw [hwaiting] at hhandled
        cases hhandled
      rw [← Option.some.inj hqueue]
      exact {
        identified := h.identified.take hnext
        pending := fun other hother _ => h.pending other hother (hunhandled other)
        taken := fun other htaken => by
          obtain rfl : entry = other := QueueThread.taken.inj htaken
          exact (h.pending entry hentry (hunhandled entry)).mayHold }
  · cases hqueue

/-- It removes the timer it has handled. -/
theorem Sound.drop (hstep : timers.stepQueue .drop = some after) :
    after.Sound := by
  obtain ⟨queue, hqueue, hafter⟩ := Option.map_eq_some_iff.mp hstep
  rw [← hafter]
  simp only [queueStep] at hqueue
  split at hqueue
  · rename_i entry hhandled
    rw [← Option.some.inj hqueue]
    exact {
      identified := h.identified.drop entry.timeoutId
      pending := fun other hother _ => by
        apply h.pending other (TimeoutQueue.mem_of_mem_locklessEventRemove hother)
        rw [hhandled]
        intro hsame
        obtain rfl : entry = other := QueueThread.handled.inj hsame
        exact TimeoutQueue.ne_of_mem_locklessEventRemove h.identified.distinct hother rfl
      taken := fun _ h => by cases h }
  · cases hqueue

/-! ## The handlers of the entity -/

/-- The entity removes its timer, and no other is left that holds it. -/
theorem Sound.disarm
    (hobj : timers.objects inst = some obj) : (timers.disarm inst obj).Sound where
  identified := h.identified.remove obj.timeoutId
  pending entry hentry hthread other object download hdata := by
    have hbefore := TimeoutQueue.mem_of_mem_locklessEventRemove hentry
    have ⟨found, hfound, hrest⟩ := h.pending entry hbefore hthread other object download hdata
    have hother : other ≠ inst := by
      rintro rfl
      obtain rfl : obj = found := Option.some.inj (hobj.symm.trans hfound)
      exact TimeoutQueue.ne_of_mem_locklessEventRemove h.identified.distinct hentry hrest.2.2.symm
    exact ⟨found, (Function.update_of_ne hother _ _).trans hfound, hrest⟩
  taken entry htaken other object download hdata := by
    have ⟨found, hfound, hobject, hcurrent⟩ := h.taken entry htaken other object download hdata
    by_cases hother : other = inst
    · obtain rfl := hother
      obtain rfl : obj = found := Option.some.inj (hobj.symm.trans hfound)
      exact ⟨_, Function.update_self _ _ _, hobject, nofun⟩
    · exact ⟨found, (Function.update_of_ne hother _ _).trans hfound, hobject, hcurrent⟩

/-- An entity without a timer gets one. -/
theorem Sound.arm
    (hobj : timers.objects inst = some { obj with download := none })
    (htaken : ¬ timers.Taken obj.object) (hfree : ¬ timers.queue.NextIdInUse) :
    (timers.arm inst obj).Sound where
  identified := h.identified.add hfree _ _
  pending entry hentry hthread other object download hdata := by
    rcases TimeoutQueue.mem_insertTimeout.mp hentry with rfl | hbefore
    · obtain ⟨rfl, rfl, rfl⟩ := SwTimeout.dataClean.inj hdata
      exact ⟨_, Function.update_self _ _ _, rfl, rfl, rfl⟩
    · have ⟨found, hfound, hrest⟩ := h.pending entry hbefore hthread other object download hdata
      have hother : other ≠ inst := by
        rintro rfl
        rw [← Option.some.inj (hobj.symm.trans hfound)] at hrest
        cases hrest.2.1
      exact ⟨found, (Function.update_of_ne hother _ _).trans hfound, hrest⟩
  taken entry hthread other object download hdata := by
    have hmay := h.taken entry hthread
    have ⟨found, hfound, hrest⟩ := hmay other object download hdata
    have hother : other ≠ inst := by
      rintro rfl
      have htakenOld := hmay.taken hthread hdata hobj
      exact htaken htakenOld
    exact ⟨found, (Function.update_of_ne hother _ _).trans hfound, hrest⟩

theorem Sound.startDl
    (hobj : timers.objects inst = some obj) (htaken : ¬ timers.Taken obj.object)
    (hfree : ¬ (timers.queue.timeoutEventRemove obj.timeoutId).NextIdInUse)
    (images : SwImages) : (timers.startDl inst obj images).Sound := by
  have hdisarm := h.disarm hobj
  have hdisarmed : ({ timers.disarm inst obj with images } : SwTimers).Sound :=
    ⟨hdisarm.identified, hdisarm.pending, hdisarm.taken⟩
  unfold SwTimers.startDl
  split
  · exact hdisarmed.arm (Function.update_self _ _ _) htaken hfree
  · exact hdisarmed

theorem Sound.endDl (hobj : timers.objects inst = some obj) (images : SwImages) :
    (timers.endDl inst obj images).Sound := by
  have hdisarm := h.disarm hobj
  unfold SwTimers.endDl
  split
  · exact ⟨hdisarm.identified, hdisarm.pending, hdisarm.taken⟩
  · exact ⟨h.identified, h.pending, h.taken⟩

/-- The thread calls a handler. -/
theorem Sound.call (htaken : timers.queue.thread = .taken entry)
    (hstep : timers.stepQueue .call = some after) : (after.dataClean entry.timeout).Sound := by
  obtain ⟨queue, hqueue, hafter⟩ := Option.map_eq_some_iff.mp hstep
  simp only [queueStep, htaken, Option.some.injEq] at hqueue
  have hidentified := h.identified.call htaken
  have hunhandled : ∀ other, timers.queue.thread ≠ .handled other := by
    intro other hhandled
    rw [htaken] at hhandled
    cases hhandled
  have hsound : after.Sound := by
    rw [← hafter, ← hqueue]
    exact {
      identified := hidentified
      pending := fun other hother _ => h.pending other hother (hunhandled other)
      taken := fun _ h => by cases h }
  unfold SwTimers.dataClean
  split
  · rename_i inst object download hdata
    split
    · rename_i obj me hobj hme
      split
      · exact {
          identified := hsound.identified
          pending := fun other hother hthread inst' object' download' hdata' => by
            obtain ⟨found, hfound, hrest⟩ :=
              hsound.pending other hother hthread inst' object' download' hdata'
            have hinst : inst' ≠ inst := by
              rintro rfl
              obtain rfl : obj = found := Option.some.inj (hobj.symm.trans hfound)
              rw [← hafter, ← hqueue] at hobj hother hthread
              obtain ⟨mine, hmine, _, hcurrent⟩ := h.taken entry htaken _ _ _ hdata
              obtain rfl : obj = mine := Option.some.inj (hobj.symm.trans hmine)
              have hid := (hcurrent _ hrest.2.1).2
              have hentry : entry ∈ timers.queue.thread.entry := htaken ▸ rfl
              have hsame := h.identified.owned entry hentry other hother
                (hrest.2.2.symm.trans hid)
              exact hthread (congrArg QueueThread.handled hsame.symm)
            exact ⟨found, (Function.update_of_ne hinst _ _).trans hfound, hrest⟩
          taken := fun other hother => by
            have hthread : after.queue.thread = .taken other := hother
            rw [← hafter, ← hqueue] at hthread
            cases hthread }
      · exact hsound
    · exact hsound
  · exact hsound

theorem Sound.create (hnone : timers.objects inst = none)
    (attrs : OmciMeSwImage) : (timers.create inst attrs).Sound := by
  have hne : ∀ {other found}, timers.objects other = some found → other ≠ inst := by
    rintro other found hfound rfl
    cases hnone.symm.trans hfound
  exact {
    identified := h.identified
    pending := fun entry hentry hthread other object download hdata => by
      have ⟨found, hfound, hrest⟩ := h.pending entry hentry hthread other object download hdata
      exact ⟨found, (Function.update_of_ne (hne hfound) _ _).trans hfound, hrest⟩
    taken := fun entry htaken other object download hdata => by
      have ⟨found, hfound, hrest⟩ := h.taken entry htaken other object download hdata
      exact ⟨found, (Function.update_of_ne (hne hfound) _ _).trans hfound, hrest⟩ }

/-- An entity is deleted whose timer is not to expire. -/
theorem Sound.delete
    (hobj : timers.objects inst = some obj) (hpending : ¬ timers.Pending obj.object)
    (htaken : ¬ timers.Taken obj.object) : (timers.delete inst).Sound where
  identified := h.identified
  pending entry hentry hthread other object download hdata := by
    have ⟨found, hfound, hobject, hrest⟩ :=
      h.pending entry hentry hthread other object download hdata
    have hother : other ≠ inst := by
      rintro rfl
      obtain rfl : obj = found := Option.some.inj (hobj.symm.trans hfound)
      have hentryObject : entry.timeout.object = some obj.object := by
        rw [hdata, SwTimeout.object, hobject]
      exact hpending ⟨entry, hentry, hthread, hentryObject⟩
    exact ⟨found, (Function.update_of_ne hother _ _).trans hfound, hobject, hrest⟩
  taken entry hthread other object download hdata := by
    have hmay := h.taken entry hthread
    have ⟨found, hfound, hrest⟩ := hmay other object download hdata
    have hother : other ≠ inst := by
      rintro rfl
      exact htaken (hmay.taken hthread hdata hobj)
    exact ⟨found, (Function.update_of_ne hother _ _).trans hfound, hrest⟩

/-! ## Steps and runs -/

/-- A step after which no timer outlives its entity or its download. -/
theorem Sound.step {event : SwTimersEvent} (hkept : ¬ timers.Outlived event)
    (hstep : swTimersStep timers event = some after) : after.Sound := by
  cases event with
  | tick ms => exact Option.some.inj hstep ▸ h.tick ms
  | add delay => exact Option.some.inj hstep ▸ h.add hkept delay
  | remove timeoutId => exact Option.some.inj hstep ▸ h.remove timeoutId
  | poll => exact h.poll hstep
  | call =>
      simp only [swTimersStep] at hstep
      split at hstep
      · rename_i entry htaken
        have ⟨called, hcalled, hafter⟩ := Option.map_eq_some_iff.mp hstep
        exact hafter ▸ h.call htaken hcalled
      · cases hstep
  | drop => exact h.drop hstep
  | startDl inst env msg =>
      simp only [swTimersStep] at hstep
      split at hstep
      · rename_i obj images hobj _
        have htaken : ¬ timers.Taken obj.object := fun hin => hkept ⟨obj, hobj, Or.inl hin⟩
        have hfree : ¬ (timers.queue.timeoutEventRemove obj.timeoutId).NextIdInUse :=
          fun hin => hkept ⟨obj, hobj, Or.inr hin⟩
        exact Option.some.inj hstep ▸ h.startDl hobj htaken hfree images
      · cases hstep
  | endDl inst env msg =>
      simp only [swTimersStep] at hstep
      split at hstep
      · rename_i obj images hobj _
        exact Option.some.inj hstep ▸ h.endDl hobj images
      · cases hstep
  | image event =>
      have ⟨_, hmap⟩ := Option.ite_none_left_eq_some.mp hstep
      have ⟨images, _, hafter⟩ := Option.map_eq_some_iff.mp hmap
      exact hafter ▸ ⟨h.identified, h.pending, h.taken⟩
  | create inst attrs =>
      simp only [swTimersStep] at hstep
      split at hstep
      · rename_i hnone
        exact Option.some.inj hstep ▸ h.create hnone attrs
      · cases hstep
  | delete inst =>
      have ⟨obj, hobj, hafter⟩ := Option.map_eq_some_iff.mp hstep
      have hpending : ¬ timers.Pending obj.object := fun hin => hkept ⟨obj, hobj, Or.inl hin⟩
      have htaken : ¬ timers.Taken obj.object := fun hin => hkept ⟨obj, hobj, Or.inr hin⟩
      exact hafter ▸ h.delete hobj hpending htaken

theorem Sound.kept {event : SwTimersEvent} (hafter : after.Sound) :
    SwTimersKept timers event after where
  live entry hentry hthread inst object download hdata := by
    have ⟨obj, hobj, hobject, hdownload, _⟩ :=
      hafter.pending entry hentry hthread inst object download hdata
    exact ⟨obj, hobj, hobject, hdownload⟩
  expiry _ entry htaken inst object download hdata := by
    have ⟨obj, hobj, hobject, hcurrent⟩ := h.taken entry htaken inst object download hdata
    exact ⟨obj, hobj, hobject, fun current hdownload => (hcurrent current hdownload).1⟩

end Kept

end SwTimers

/-- In every run in which no entity is deleted while its timer is to expire, none starts a
download anew when the thread has taken its timer, and no identifier is given out that is in
use, every timer that is to expire holds an entity in the MIB and the download that has armed
it, and no handler aborts a later download. -/
theorem swTimers_kept (now : Nat) (events : List SwTimersEvent)
    (hkept : Along swTimersStep (fun before event _ => ¬ before.Outlived event)
      (swTimersInit now) events) : Along swTimersStep SwTimersKept (swTimersInit now) events := by
  apply Along.of_guard _ (SwTimers.sound_init now) hkept
  intro before event after hbefore hguard hstep
  have hafter := hbefore.step hguard hstep
  exact ⟨hbefore.kept hafter, hafter⟩

def sampleArmed : List SwTimersEvent :=
  [.create 1 ⟨List.replicate 14 0, false, false, false⟩,
    .startDl 1 sampleEnv (sampleRequest 0x53 [0, 0, 0, 0, 10])]

/-- The timer expires, and the entity is deleted. -/
theorem swTimers_kept_expired :
    Along swTimersStep SwTimersKept (swTimersInit 0)
      (sampleArmed ++ [.tick 900000, .poll, .call, .drop, .delete 1]) :=
  swTimers_kept 0 _ (by decide)

def SwTimers.inMib (timers : SwTimers) : SwTimeout → Bool
  | .dataClean inst object _ => (timers.objects inst).any (·.object = object)
  | .other => true

theorem SwTimersKept.inMib {before after : SwTimers} {event : SwTimersEvent}
    (h : SwTimersKept before event after) : ∀ entry ∈ after.queue.timeoutList,
      after.queue.thread ≠ .handled entry → after.inMib entry.timeout = true := by
  intro entry hentry hthread
  cases hdata : entry.timeout with
  | dataClean inst object download =>
      have ⟨obj, hobj, hobject, _⟩ := h.live entry hentry hthread inst object download hdata
      simp [SwTimers.inMib, hobj, hobject]
  | other => rfl

/-- The MIB is destroyed and built again: the timer holds the entity that was freed. -/
theorem swTimers_not_kept :
    ¬ ∀ (now : Nat) (events : List SwTimersEvent),
      Along swTimersStep SwTimersKept (swTimersInit now) events := by
  intro hall
  have hheld : Along swTimersStep (fun _ _ after => ∀ entry ∈ after.queue.timeoutList,
      after.queue.thread ≠ .handled entry → after.inMib entry.timeout = true) (swTimersInit 0)
      (sampleArmed ++ [.delete 1, .create 1 ⟨List.replicate 14 0, false, false, false⟩]) :=
    (hall 0 _).mono fun _ _ _ hkept => hkept.inMib
  revert hheld
  decide

end FalconGpon.Omci
