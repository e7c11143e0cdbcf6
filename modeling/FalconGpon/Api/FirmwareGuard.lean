/-
# The firmware update guard

With the guard on, requests of the OLT are to leave alone what the boot loader decides by: the
flash write of a store is left out, a commit is kept in memory, and an activation writes no
register. The valid flags are not guarded: a download start clears that of its image and a
store sets it.

`fwGuard_iff`: with the guard on the boot loader's view stays as it was throughout a run exactly
if every valid flag that is written has the value already; the rest of the view always stays.
-/

import FalconGpon.Api.FlashWorkers

namespace FalconGpon.Api

open FalconGpon.Lib

/-! ## The boot loader's view -/

/-- What the boot loader decides by. -/
structure BootView where
  /-- The contents of the partitions `image0` and `image1`. -/
  bank : Nat → List (BitVec 8)
  /-- `committed_image`, if it can be read. -/
  committedImage : Option Nat
  /-- `image0_is_valid`, `image1_is_valid`. -/
  isValid : Nat → Bool
  /-- The register at `OMCI_API_UBOOT_RAM_ACT_IMAGE_MAGIC_ADDR`. -/
  actImageMagic : BitVec 32
  /-- The register at `OMCI_API_UBOOT_RAM_ACT_IMAGE_VAL_ADDR`. -/
  actImageVal : BitVec 32

/-- `OMCI_API_UBOOT_RAM_ACT_IMAGE_MAGIC_VAL`. -/
def actImageMagicVal : BitVec 32 := 0xDEADBEEF

/-- The child that an event ends, and how. -/
def FlashState.ended (s : FlashState) : FlashEvent → Option (ChildJob × ChildEnd)
  | .invalidateWait (some end') => (s.invalidate.bind InvalidateWorker.child).map (·, end')
  | .storeWait (some end') => (s.store.bind StoreWorker.child).map (·, end')
  | .commitWait (some end') => (s.commit.bind CommitWorker.child).map (·, end')
  | .orphanEnd index end' => s.orphans[index]?.map (·, end')
  | _ => none

/-- The event with what the guard is. -/
def FlashEvent.withGuard (guarded : Bool) : FlashEvent → FlashEvent
  | .storeBegin header _ => .storeBegin header guarded
  | .commitBegin _ => .commitBegin guarded
  | event => event

/-! ## The state -/

/-- The workers, the environment and the registers of the boot loader, and the variables of the
guard. -/
structure GuardState where
  workers : FlashState
  bank : Nat → List (BitVec 8)
  committedImage : Option Nat
  actImageMagic : BitVec 32
  actImageVal : BitVec 32
  /-- The option `8311.config.fw_update_guard` begins with `1`. -/
  fwUpdateGuard : Bool
  fwGuardEnabled : Bool
  fwGuardInitialized : Bool
  /-- `shadow_committed`, `none` for -1. -/
  shadowCommitted : Option Nat
  /-- The images that were committed; history. -/
  commits : List Nat

namespace GuardState

def bootView (s : GuardState) : BootView :=
  ⟨s.bank, s.committedImage, s.workers.isValid, s.actImageMagic, s.actImageVal⟩

/-- After start-up. -/
def initial (boot : BootView) (fwUpdateGuard : Bool) : GuardState where
  workers := .initial boot.isValid
  bank := boot.bank
  committedImage := boot.committedImage
  actImageMagic := boot.actImageMagic
  actImageVal := boot.actImageVal
  fwUpdateGuard := fwUpdateGuard
  fwGuardEnabled := false
  fwGuardInitialized := false
  shadowCommitted := none
  commits := []

/-- `fw_guard_init`. -/
def fwGuardInit (s : GuardState) : GuardState :=
  if s.fwGuardInitialized then s
  else { s with fwGuardInitialized := true, fwGuardEnabled := s.fwUpdateGuard }

/-- What `fw_guard_init` finds the guard to be. -/
def guarded (s : GuardState) : Bool := s.fwGuardInit.fwGuardEnabled

def committedId (image : Nat) : Nat := if image = 0 then 0 else 1

/-- What a worker does at its beginning: it looks at the guard, and with it on a commit is kept in
memory. -/
def begin (s : GuardState) : FlashEvent → GuardState
  | .storeBegin true _ => s.fwGuardInit
  | .commitBegin _ =>
      let s := s.fwGuardInit
      match s.fwGuardEnabled, s.workers.commit with
      | true, some w =>
          { s with
            shadowCommitted := some (committedId w.image)
            commits := s.commits ++ [w.image] }
      | _, _ => s
  | _ => s

/-- What a child leaves behind that has ended. -/
def finish (s : GuardState) : Option (ChildJob × ChildEnd) → GuardState
  | some (.committed image, end') =>
      if end'.wrote then
        { s with
          committedImage := some (committedId image)
          commits := s.commits ++ [image] }
      else s
  | _ => s

/-- A step of the workers, with the guard as it is. -/
def flash (s : GuardState) (event : FlashEvent) : Option GuardState :=
  match s.workers.step (event.withGuard s.guarded) with
  | some workers => some { (s.begin event).finish (s.workers.ended event) with workers := workers }
  | none => none

/-- `mtd` writes to the partition of its image while it runs. -/
def mtd (s : GuardState) (image : Nat) (contents : List (BitVec 8)) : Option GuardState :=
  if .flash image ∈ s.workers.children then
    some { s with bank := Function.update s.bank image contents }
  else none

/-- `omci_api_sw_image_activate` with `omci_api_falcon_sw_image_activate`, whose result it does
not look at. The flags say whether a register could be set. -/
def activate (s : GuardState) (image : Nat) (magicSet valSet : Bool) : GuardState :=
  if 1 < image then s
  else
    let s := s.fwGuardInit
    if s.fwGuardEnabled then s
    else if !magicSet then s
    else
      let s := { s with actImageMagic := actImageMagicVal }
      if valSet then { s with actImageVal := BitVec.ofNat 32 image } else s

/-- `omci_api_falcon_sw_image_is_committed`. -/
def isCommitted (s : GuardState) (image : Nat) : Bool :=
  let s := s.fwGuardInit
  match s.fwGuardEnabled, s.shadowCommitted with
  | true, some shadow => shadow == image
  | _, _ => s.committedImage == some image

end GuardState

/-- What can happen. Commits and downloads are events of the workers. -/
inductive GuardEvent
  | flash (event : FlashEvent)
  | mtd (image : Nat) (contents : List (BitVec 8))
  | activate (image : Nat) (magicSet valSet : Bool)

def GuardState.step (s : GuardState) : GuardEvent → Option GuardState
  | .flash event => s.flash event
  | .mtd image contents => s.mtd image contents
  | .activate image magicSet valSet => some (s.activate image magicSet valSet)

/-! ## Steps of the workers with the guard on -/

/-- The child writes neither a partition nor `committed_image`. -/
def ChildJob.spares : ChildJob → Bool
  | flash _ | committed _ => false
  | version _ | validFlag _ _ => true

namespace FlashState

/-- No worker, and no child that was left behind, is at work on a partition or on
`committed_image`. -/
structure Guarded (s : FlashState) : Prop where
  store : ∀ w, s.store = some w → w.pc ≠ .flash ∧ w.pc ≠ .flashWait
  commit : ∀ w, s.commit = some w → w.image ≤ 1 ∧ w.pc ≠ .fork ∧ w.pc ≠ .wait
  orphans : ∀ job ∈ s.orphans, job.spares = true

/-- The valid flags when a child has ended. -/
def flagsAfter (s : FlashState) : Option (ChildJob × ChildEnd) → Nat → Bool
  | some (.validFlag image isValid, end') =>
      if end'.wrote then Function.update s.isValid image isValid else s.isValid
  | _ => s.isValid

theorem finish_isValid (s : FlashState) (job : ChildJob) (end' : ChildEnd) :
    (s.finish job end').isValid = s.flagsAfter (some (job, end')) := by
  cases job with
  | validFlag image isValid =>
      rw [finish, flagsAfter]
      split <;> rfl
  | _ => rfl

/-- The flags stay exactly if the child that has ended wrote the value that was there. -/
theorem flagsAfter_eq_iff (s : FlashState) (ended : Option (ChildJob × ChildEnd)) :
    s.flagsAfter ended = s.isValid ↔ ∀ image isValid end',
      ended = some (.validFlag image isValid, end') → end'.wrote = true →
        s.isValid image = isValid := by
  rw [flagsAfter.eq_def]
  split
  · rename_i image isValid end'
    constructor
    · rintro hsame image' isValid' end'' heq hwrote
      obtain ⟨hjob, rfl⟩ := Prod.mk.inj (Option.some.inj heq)
      obtain ⟨rfl, rfl⟩ := ChildJob.validFlag.inj hjob
      rw [if_pos hwrote, Function.update_eq_self_iff] at hsame
      exact hsame.symm
    · intro hsame
      split
      · rename_i hwrote
        exact Function.update_eq_self_iff.mpr (hsame image isValid end' rfl hwrote).symm
      · rfl
  · rename_i hother
    refine iff_of_true rfl fun image isValid end' heq => ?_
    exact absurd heq (hother image isValid end')

theorem Guarded.initial (isValid : Nat → Bool) : (FlashState.initial isValid).Guarded := by
  refine ⟨?_, ?_, ?_⟩
  all_goals
    intro x hx
    cases hx

/-- A step keeps the workers off, and flags are written by children that end. -/
structure GuardedStep (s : FlashState) (event : FlashEvent) (s' : FlashState) : Prop where
  guarded : s'.Guarded
  isValid : s'.isValid = s.flagsAfter (s.ended event)

variable {s s' : FlashState}

theorem Guarded.storeChild (h : s.Guarded) {w : StoreWorker} {job : ChildJob}
    (hw : s.store = some w) (hchild : w.child = some job) : job.spares = true := by
  rw [StoreWorker.child] at hchild
  split at hchild
  · rename_i hpc
    exact absurd hpc (h.store w hw).2
  · rw [← Option.some.inj hchild]
    rfl
  · rw [← Option.some.inj hchild]
    rfl
  · cases hchild

theorem Guarded.commitChild (h : s.Guarded) {w : CommitWorker} (hw : s.commit = some w) :
    w.child = none := by
  rw [CommitWorker.child]
  split
  · rename_i hpc
    exact absurd hpc (h.commit w hw).2.2
  · rfl

theorem invalidateChild {w : InvalidateWorker} {job : ChildJob} (hchild : w.child = some job) :
    job.spares = true := by
  rw [InvalidateWorker.child] at hchild
  split at hchild
  · rw [← Option.some.inj hchild]
    rfl
  · cases hchild

section Kept

variable (h : s.Guarded)
include h

theorem Guarded.leave {child : Option ChildJob}
    (hchild : ∀ job, child = some job → job.spares = true) : (s.leave child).Guarded := by
  refine ⟨h.store, h.commit, fun job hjob => ?_⟩
  rcases List.mem_append.mp hjob with hold | hnew
  · exact h.orphans job hold
  · exact hchild job (Option.mem_toList.mp hnew)

theorem Guarded.deleteInvalidate : s.deleteInvalidate.Guarded := by
  have hchild : ∀ job, s.invalidate.bind InvalidateWorker.child = some job →
      job.spares = true := by
    intro job hjob
    obtain ⟨w, -, hchild⟩ := Option.bind_eq_some_iff.mp hjob
    exact invalidateChild hchild
  have hleave := h.leave hchild
  exact ⟨hleave.store, hleave.commit, hleave.orphans⟩

theorem Guarded.deleteStore : s.deleteStore.Guarded := by
  have hchild : ∀ job, s.store.bind StoreWorker.child = some job → job.spares = true := by
    intro job hjob
    obtain ⟨w, hw, hchild⟩ := Option.bind_eq_some_iff.mp hjob
    exact h.storeChild hw hchild
  have hleave := h.leave hchild
  refine ⟨?_, hleave.commit, hleave.orphans⟩
  intro w hw
  cases hw

theorem Guarded.deleteCommit : s.deleteCommit.Guarded := by
  have hchild : ∀ job, s.commit.bind CommitWorker.child = some job → job.spares = true := by
    intro job hjob
    obtain ⟨w, hw, hchild⟩ := Option.bind_eq_some_iff.mp hjob
    rw [h.commitChild hw] at hchild
    cases hchild
  have hleave := h.leave hchild
  refine ⟨hleave.store, ?_, hleave.orphans⟩
  intro w hw
  cases hw

theorem Guarded.finish (job : ChildJob) (end' : ChildEnd) :
    (s.finish job end').Guarded := by
  refine ⟨?_, ?_, ?_⟩
  · rw [finish_store]
    exact h.store
  · rw [finish_commit]
    exact h.commit
  · rw [finish_orphans]
    exact h.orphans

theorem Guarded.storeGoes (w : StoreWorker) {pc : StorePc} (hflash : pc ≠ .flash)
    (hwait : pc ≠ .flashWait) : (s.storeGoes w pc).Guarded := by
  refine ⟨fun w' hw' => ?_, h.commit, h.orphans⟩
  rw [← Option.some.inj hw']
  exact ⟨hflash, hwait⟩

theorem Guarded.commitGoes {w : CommitWorker} (hw : w.image ≤ 1)
    (committed : Bool) : (s.commitGoes w (.callback committed)).Guarded := by
  refine ⟨h.store, fun w' hw' => ?_, h.orphans⟩
  rw [← Option.some.inj hw']
  exact ⟨hw, nofun, nofun⟩

/-! ### Calls -/

theorem Guarded.downloadStart (image : Nat) (threadInit : Bool) :
    s.GuardedStep (.downloadStart image threadInit) (s.downloadStart image threadInit) := by
  have hdelete := h.deleteInvalidate
  rw [FlashState.downloadStart]
  split
  · exact ⟨h, rfl⟩
  · split
    · exact ⟨⟨hdelete.store, hdelete.commit, hdelete.orphans⟩, rfl⟩
    · exact ⟨hdelete, rfl⟩

theorem Guarded.downloadEnd (image : Nat) (fileStat memAlloc threadInit : Bool) :
    s.GuardedStep (.downloadEnd image fileStat memAlloc threadInit)
      (s.downloadEnd image fileStat memAlloc threadInit) := by
  have hdelete := h.deleteStore
  rw [FlashState.downloadEnd]
  split
  · exact ⟨h, rfl⟩
  · split
    · exact ⟨h, rfl⟩
    · split
      · exact ⟨h, rfl⟩
      · split
        · refine ⟨⟨fun w hw => ?_, hdelete.commit, hdelete.orphans⟩, rfl⟩
          rw [← Option.some.inj hw]
          exact ⟨nofun, nofun⟩
        · exact ⟨hdelete, rfl⟩

theorem Guarded.commitCall (image : Nat) (memAlloc threadInit : Bool) :
    s.GuardedStep (.commit image memAlloc threadInit) (s.commitCall image memAlloc threadInit) := by
  have hdelete := h.deleteCommit
  rw [FlashState.commitCall]
  split
  · exact ⟨h, rfl⟩
  · rename_i himage
    split
    · exact ⟨hdelete, rfl⟩
    · split
      · refine ⟨⟨hdelete.store, fun w hw => ?_, hdelete.orphans⟩, rfl⟩
        rw [← Option.some.inj hw]
        exact ⟨Nat.not_lt.mp himage, nofun, nofun⟩
      · exact ⟨hdelete, rfl⟩

/-! ### The invalidate worker -/

theorem Guarded.invalidateFork {forked : Bool}
    (hstep : s.invalidateFork forked = some s') : s.GuardedStep (.invalidateFork forked) s' := by
  rw [FlashState.invalidateFork] at hstep
  split at hstep
  · split at hstep
    · cases hstep
    · rw [← Option.some.inj hstep]
      exact ⟨⟨h.store, h.commit, h.orphans⟩, rfl⟩
  · cases hstep

theorem Guarded.invalidateWait {end' : Option ChildEnd}
    (hstep : s.invalidateWait end' = some s') : s.GuardedStep (.invalidateWait end') s' := by
  rw [FlashState.invalidateWait] at hstep
  split at hstep
  · rename_i w hw
    split at hstep
    · rename_i hwaits
      have hchild : w.child = some (.validFlag w.image false) := if_pos hwaits
      split at hstep
      · rename_i e
        rw [← Option.some.inj hstep]
        have hfinish := h.finish (.validFlag w.image false) e
        refine ⟨⟨hfinish.store, hfinish.commit, hfinish.orphans⟩, ?_⟩
        rw [ended, hw, Option.bind_some, hchild, Option.map_some]
        exact s.finish_isValid _ _
      · rw [← Option.some.inj hstep]
        exact ⟨h.deleteInvalidate, rfl⟩
    · cases hstep
  · cases hstep

/-! ### The store worker -/

theorem Guarded.storeBegin {header guarded : Bool}
    (hstep : s.storeBegin header guarded = some s') (hguarded : guarded = true) :
    s.GuardedStep (.storeBegin header guarded) s' := by
  rw [FlashState.storeBegin] at hstep
  split at hstep
  · split at hstep
    · subst hguarded
      split at hstep
      · rw [← Option.some.inj hstep]
        exact ⟨h.storeGoes _ nofun nofun, rfl⟩
      · rw [← Option.some.inj hstep]
        exact ⟨h.storeGoes _ nofun nofun, rfl⟩
    · cases hstep
  · cases hstep

theorem Guarded.storeFork {forked : Bool}
    (hstep : s.storeFork forked = some s') : s.GuardedStep (.storeFork forked) s' := by
  rw [FlashState.storeFork] at hstep
  split at hstep
  · rename_i w hw
    split at hstep
    · rename_i hpc
      exact absurd hpc (h.store w hw).1
    · rw [← Option.some.inj hstep]
      refine ⟨h.storeGoes w ?_ ?_, rfl⟩
      · split <;> exact nofun
      · split <;> exact nofun
    · rw [← Option.some.inj hstep]
      refine ⟨h.storeGoes w ?_ ?_, rfl⟩
      · split <;> exact nofun
      · split <;> exact nofun
    · cases hstep
  · cases hstep

theorem Guarded.storeWaited (w : StoreWorker) (end' : ChildEnd) {pc : StorePc}
    (hflash : pc ≠ .flash) (hwait : pc ≠ .flashWait) : (s.storeWaited w end' pc).Guarded := by
  rw [FlashState.storeWaited]
  split
  · exact h.storeGoes w hflash hwait
  · exact h.storeGoes w nofun nofun

theorem Guarded.storeWait {end' : Option ChildEnd}
    (hstep : s.storeWait end' = some s') : s.GuardedStep (.storeWait end') s' := by
  rw [FlashState.storeWait] at hstep
  split at hstep
  · rename_i w hw
    split at hstep
    · rename_i job hchild
      rw [← Option.some.inj hstep]
      have hleave : (s.leave (some job)).Guarded := by
        apply h.leave
        intro job' hjob'
        exact h.storeChild hw (hchild.trans hjob')
      exact ⟨hleave.storeGoes w nofun nofun, rfl⟩
    · rename_i job e hchild
      have hfinish := h.finish job e
      have hended : s.ended (.storeWait (some e)) = some (job, e) := by
        rw [ended, hw, Option.bind_some, hchild, Option.map_some]
      have hvalid := s.finish_isValid job e
      rw [← hended] at hvalid
      split at hstep
      · rename_i hpc
        exact absurd hpc (h.store w hw).2
      · rw [← Option.some.inj hstep]
        exact ⟨hfinish.storeWaited _ e nofun nofun, hvalid⟩
      · rw [← Option.some.inj hstep]
        exact ⟨hfinish.storeWaited _ e nofun nofun, hvalid⟩
    · cases hstep
  · cases hstep

theorem Guarded.storeCallback (hstep : s.storeCallback = some s') :
    s.GuardedStep .storeCallback s' := by
  rw [FlashState.storeCallback] at hstep
  split at hstep
  · split at hstep
    · rw [← Option.some.inj hstep]
      refine ⟨⟨?_, h.commit, h.orphans⟩, rfl⟩
      intro w hw
      cases hw
    · cases hstep
  · cases hstep

/-! ### The commit worker -/

theorem Guarded.commitBegin {guarded : Bool}
    (hstep : s.commitBegin guarded = some s') (hguarded : guarded = true) :
    s.GuardedStep (.commitBegin guarded) s' := by
  rw [FlashState.commitBegin] at hstep
  split at hstep
  · rename_i w hw
    split at hstep
    · subst hguarded
      rw [← Option.some.inj hstep]
      exact ⟨h.commitGoes (h.commit w hw).1 true, rfl⟩
    · cases hstep
  · cases hstep

theorem Guarded.commitCallback (hstep : s.commitCallback = some s') :
    s.GuardedStep .commitCallback s' := by
  rw [FlashState.commitCallback] at hstep
  split at hstep
  · split at hstep
    · rw [← Option.some.inj hstep]
      refine ⟨⟨h.store, ?_, h.orphans⟩, rfl⟩
      intro w hw
      cases hw
    · cases hstep
  · cases hstep

theorem Guarded.commitFork_eq_none (forked : Bool) :
    s.commitFork forked = none := by
  rw [commitFork]
  split
  · rename_i w hw
    exact if_neg (h.commit w hw).2.1
  · rfl

theorem Guarded.commitWait_eq_none (end' : Option ChildEnd) :
    s.commitWait end' = none := by
  rw [commitWait]
  split
  · rename_i w hw
    exact if_neg (h.commit w hw).2.2
  · rfl

theorem Guarded.orphanEnd {index : Nat} {end' : ChildEnd}
    (hstep : s.orphanEnd index end' = some s') : s.GuardedStep (.orphanEnd index end') s' := by
  rw [FlashState.orphanEnd] at hstep
  split at hstep
  · rename_i job hjob
    rw [← Option.some.inj hstep]
    have hfinish := h.finish job end'
    refine ⟨⟨hfinish.store, hfinish.commit, fun other hother => ?_⟩, ?_⟩
    · exact h.orphans other (List.mem_of_mem_eraseIdx hother)
    · rw [ended, hjob, Option.map_some]
      exact s.finish_isValid _ _
  · cases hstep

/-- With the guard on a step keeps the workers off. -/
theorem Guarded.step {event : FlashEvent}
    (hstep : s.step (event.withGuard true) = some s') : s.GuardedStep event s' := by
  cases event with
  | downloadStart image threadInit =>
      exact Option.some.inj hstep ▸ h.downloadStart image threadInit
  | downloadEnd image fileStat memAlloc threadInit =>
      exact Option.some.inj hstep ▸ h.downloadEnd image fileStat memAlloc threadInit
  | commit image memAlloc threadInit =>
      exact Option.some.inj hstep ▸ h.commitCall image memAlloc threadInit
  | invalidateFork forked => exact h.invalidateFork hstep
  | invalidateWait end' => exact h.invalidateWait hstep
  | storeBegin header guarded =>
      have hkept := h.storeBegin hstep rfl
      exact ⟨hkept.guarded, hkept.isValid⟩
  | storeFork forked => exact h.storeFork hstep
  | storeWait end' => exact h.storeWait hstep
  | storeCallback => exact h.storeCallback hstep
  | commitBegin guarded =>
      have hkept := h.commitBegin hstep rfl
      exact ⟨hkept.guarded, hkept.isValid⟩
  | commitFork forked => exact nomatch (h.commitFork_eq_none forked).symm.trans hstep
  | commitWait end' => exact nomatch (h.commitWait_eq_none end').symm.trans hstep
  | commitCallback => exact h.commitCallback hstep
  | orphanEnd index end' => exact h.orphanEnd hstep

/-- A child that ends with the guard on spares the partitions and `committed_image`. -/
theorem Guarded.ended {event : FlashEvent} {job : ChildJob} {end' : ChildEnd}
    (hended : s.ended event = some (job, end')) : job.spares = true := by
  have hchild {child : Option ChildJob} {e : ChildEnd}
      (hsome : child.map (·, e) = some (job, end')) : child = some job := by
    obtain ⟨job', hjob', heq⟩ := Option.map_eq_some_iff.mp hsome
    rw [hjob', (Prod.mk.inj heq).1]
  rw [FlashState.ended.eq_def] at hended
  split at hended
  · obtain ⟨w, -, hjob⟩ := Option.bind_eq_some_iff.mp (hchild hended)
    exact invalidateChild hjob
  · obtain ⟨w, hw, hjob⟩ := Option.bind_eq_some_iff.mp (hchild hended)
    exact h.storeChild hw hjob
  · obtain ⟨w, hw, hjob⟩ := Option.bind_eq_some_iff.mp (hchild hended)
    rw [h.commitChild hw] at hjob
    cases hjob
  · exact h.orphans job (List.mem_of_getElem? (hchild hended))
  · cases hended

theorem Guarded.not_flash_mem (image : Nat) : .flash image ∉ s.children := by
  intro hmem
  suffices hspares : (ChildJob.flash image).spares = true by cases hspares
  rw [children, List.mem_append, List.mem_append, List.mem_append] at hmem
  rcases hmem with ((horphan | hinvalidate) | hstore) | hcommit
  · exact h.orphans _ horphan
  · obtain ⟨w, -, hchild⟩ := List.mem_filterMap.mp hinvalidate
    exact invalidateChild hchild
  · obtain ⟨w, hw, hchild⟩ := List.mem_filterMap.mp hstore
    exact h.storeChild (Option.mem_toList.mp hw) hchild
  · obtain ⟨w, hw, hchild⟩ := List.mem_filterMap.mp hcommit
    rw [h.commitChild (Option.mem_toList.mp hw)] at hchild
    cases hchild

end Kept

end FlashState

/-! ## Runs with the guard on -/

namespace GuardState

/-- After a commit, the image that was committed last is reported as committed, and the other one
is not. -/
def CommittedRight (s : GuardState) : Prop :=
  ∀ last, s.commits.getLast? = some last → ∀ image, s.isCommitted image = (image == last)

/-- A valid flag that the event writes has the value already. -/
def Spares (s : GuardState) : GuardEvent → Prop
  | .flash event => ∀ image isValid end',
      s.workers.ended event = some (.validFlag image isValid, end') → end'.wrote = true →
        s.workers.isValid image = isValid
  | _ => True

/-- What holds with the guard on: it is or will be found on, no worker is at what it guards, the
boot loader's view is that of the start but for the flags, and the commits are in memory. -/
structure Holds (boot : BootView) (s : GuardState) : Prop where
  guarded : s.guarded = true
  workers : s.workers.Guarded
  bank : s.bank = boot.bank
  committedImage : s.committedImage = boot.committedImage
  actImageMagic : s.actImageMagic = boot.actImageMagic
  actImageVal : s.actImageVal = boot.actImageVal
  shadow : s.shadowCommitted = s.commits.getLast?
  commits : ∀ image ∈ s.commits, image ≤ 1

variable {boot : BootView} {s s' : GuardState}

theorem Holds.initial (boot : BootView) : Holds boot (GuardState.initial boot true) where
  guarded := rfl
  workers := .initial boot.isValid
  bank := rfl
  committedImage := rfl
  actImageMagic := rfl
  actImageVal := rfl
  shadow := rfl
  commits := nofun

theorem fwGuardInit_eq (s : GuardState) :
    s.fwGuardInit = { s with fwGuardInitialized := true, fwGuardEnabled := s.guarded } := by
  rw [guarded, fwGuardInit]
  split
  · rename_i hinit
    rw [← hinit]
  · rfl

theorem guarded_eq (s : GuardState) :
    s.guarded = if s.fwGuardInitialized then s.fwGuardEnabled else s.fwUpdateGuard := by
  rw [guarded, fwGuardInit]
  split <;> rfl

theorem Holds.fwGuardInit (h : Holds boot s) : Holds boot s.fwGuardInit := by
  rw [fwGuardInit_eq]
  exact { h with }

theorem committedId_eq {image : Nat} (himage : image ≤ 1) : committedId image = image := by
  rw [committedId]
  split <;> omega

theorem Holds.committedRight (h : Holds boot s) : s.CommittedRight := by
  intro last hlast image
  rw [isCommitted, fwGuardInit_eq, h.guarded, h.shadow, hlast]
  exact Bool.beq_comm

/-- What a worker begins with. -/
theorem Holds.begin (h : Holds boot s) (event : FlashEvent) : Holds boot (s.begin event) := by
  rw [GuardState.begin.eq_def]
  split
  · exact h.fwGuardInit
  · dsimp only
    split
    · rename_i w henabled hw
      rw [fwGuardInit_eq] at hw ⊢
      have hle : w.image ≤ 1 := (h.workers.commit w hw).1
      have hcommits : ∀ image ∈ s.commits ++ [w.image], image ≤ 1 := by
        intro image himage
        rcases List.mem_append.mp himage with hold | hnew
        · exact h.commits image hold
        · exact (List.mem_singleton.mp hnew) ▸ hle
      have hlast : some (committedId w.image) = (s.commits ++ [w.image]).getLast? := by
        rw [committedId_eq hle]
        exact List.getLast?_concat.symm
      exact { h with shadow := hlast, commits := hcommits }
    · exact h.fwGuardInit
  · exact h

theorem Holds.finish_ended (h : Holds boot s) (event : FlashEvent) :
    (s.begin event).finish (s.workers.ended event) = s.begin event := by
  rw [finish.eq_def]
  split
  · rename_i image end' hended
    have hspares := h.workers.ended hended
    cases hspares
  · rfl

theorem Holds.flash (h : Holds boot s) {event : FlashEvent} (hstep : s.flash event = some s') :
    Holds boot s' ∧ s'.workers.isValid = s.workers.flagsAfter (s.workers.ended event) := by
  rw [GuardState.flash, h.guarded] at hstep
  split at hstep
  · rename_i workers hworkers
    rw [h.finish_ended] at hstep
    obtain rfl := Option.some.inj hstep
    have hkept := h.workers.step hworkers
    have hbegin := h.begin event
    have hguarded : ({ s.begin event with workers := workers } : GuardState).guarded = true := by
      rw [← hbegin.guarded, guarded_eq, guarded_eq]
    exact ⟨{ hbegin with guarded := hguarded, workers := hkept.guarded }, hkept.isValid⟩
  · cases hstep

theorem Holds.activate (h : Holds boot s) (image : Nat) (magicSet valSet : Bool) :
    Holds boot (s.activate image magicSet valSet) ∧
      (s.activate image magicSet valSet).workers = s.workers := by
  rw [GuardState.activate]
  split
  · exact ⟨h, rfl⟩
  · have henabled : s.fwGuardInit.fwGuardEnabled = true := h.guarded
    dsimp only
    rw [if_pos henabled]
    refine ⟨h.fwGuardInit, ?_⟩
    rw [fwGuardInit_eq]

/-- A step keeps all but the flags. -/
theorem Holds.step (h : Holds boot s) {event : GuardEvent} (hstep : s.step event = some s') :
    Holds boot s' ∧ (s'.workers.isValid = s.workers.isValid ↔ s.Spares event) := by
  cases event with
  | flash event =>
      obtain ⟨hafter, hvalid⟩ := h.flash hstep
      rw [hvalid]
      exact ⟨hafter, s.workers.flagsAfter_eq_iff _⟩
  | mtd image contents =>
      rw [GuardState.step, mtd, if_neg (h.workers.not_flash_mem image)] at hstep
      cases hstep
  | activate image magicSet valSet =>
      obtain rfl := Option.some.inj hstep
      obtain ⟨hafter, hworkers⟩ := h.activate image magicSet valSet
      rw [hworkers]
      exact ⟨hafter, iff_of_true rfl trivial⟩

theorem Holds.bootView (h : Holds boot s) :
    s.bootView = { boot with isValid := s.workers.isValid } := by
  rw [GuardState.bootView, h.bank, h.committedImage, h.actImageMagic, h.actImageVal]

/-- The boot loader's view is that of the start. -/
structure Unchanged (boot : BootView) (s : GuardState) : Prop extends Holds boot s where
  isValid : s.workers.isValid = boot.isValid

theorem Unchanged.initial (boot : BootView) : Unchanged boot (GuardState.initial boot true) :=
  { Holds.initial boot with isValid := rfl }

/-- In a run with the guard on the boot loader's view stays as it was, and the image that was
committed last is reported, exactly if every valid flag that is written has the value already. -/
theorem fwGuard_iff (boot : BootView) (events : List GuardEvent) :
    Along GuardState.step (fun _ _ after => after.bootView = boot ∧ after.CommittedRight)
        (initial boot true) events ↔
      Along GuardState.step (fun before event _ => before.Spares event) (initial boot true)
        events := by
  refine along_iff_guard ?_ (Unchanged.initial boot) events
  intro before event after hbefore hstep
  obtain ⟨hafter, hspares⟩ := hbefore.toHolds.step hstep
  rw [hbefore.isValid] at hspares
  have hview : after.bootView = boot ↔ before.Spares event := by
    rw [← hspares, hafter.bootView]
    constructor
    · exact fun hsame => congrArg BootView.isValid hsame
    · intro hsame
      rw [hsame]
  refine ⟨(and_iff_left hafter.committedRight).trans hview, fun hguard => ?_⟩
  exact { hafter with isValid := hspares.mpr hguard }

/-- In every run with the guard on, whatever is requested, the boot loader's view changes in the
valid flags only, and the image that was committed last is reported. -/
theorem fwGuard_keeps (boot : BootView) (events : List GuardEvent) :
    Along GuardState.step (fun _ _ after =>
        after.bootView = { boot with isValid := after.workers.isValid } ∧ after.CommittedRight)
      (initial boot true) events := by
  refine Along.of_invariant (fun before event after hbefore hstep => ?_) (Holds.initial boot) events
  have hafter := (hbefore.step hstep).1
  exact ⟨⟨hafter.bootView, hafter.committedRight⟩, hafter⟩

def abortedDownload : List GuardEvent :=
  [.flash (.downloadStart 0 true), .flash (.invalidateFork true),
    .flash (.invalidateWait (some ⟨true, 0, true⟩))]

/-- With the guard on it makes a valid image invalid. -/
theorem fwGuard_aborted :
    ¬∀ (boot : BootView) (events : List GuardEvent),
      Along GuardState.step (fun _ _ after => after.bootView = boot ∧ after.CommittedRight)
        (initial boot true) events := by
  intro h
  have hrun := h ⟨fun _ => [], some 0, fun _ => true, 0, 0⟩ abortedDownload
  have hview := hrun.2.2.1.1
  have hflag : false = true := congrFun (congrArg BootView.isValid hview) 0
  cases hflag

end GuardState

end FalconGpon.Api
