/-
# Flash threads and the reboot lock

The driver has one thread control for writing an image and one for committing one, both
static: `omci_api_sw_image_download_end` and `omci_api_sw_image_commit` delete the thread
that is still running before they start their own. A deleted thread does not call back,
while the programmer it has started goes on with the flash. `SwFlash` adds this, and the
REBOOT action, to the Software Image entities.
-/

import FalconGpon.Omci.SwBuffer

namespace FalconGpon.Omci

open FalconGpon.Lib

/-! ## What a request starts -/

/-- END_DL gets as far as `omci_api_sw_image_download_end`, in a slot the driver serves. -/
def SwImage.stores (me : SwImage) (env : SwImageEnv) (msg : OmciMsg) : Bool :=
  me.status = .downloading && !me.isCommitted && !me.isActive &&
    me.crc = some (msg.field32 0) && me.imageSize = msg.field32 4 && env.file

def SwImage.ready (me : SwImage) : Bool :=
  (me.status = .none || me.status = .writingComplete) && me.isValid

/-- END_DL starts to write an image. -/
def SwImages.startsWrite (images : SwImages) : SwImageEvent → Bool
  | .endDl inst env msg =>
      (images.me inst).any fun me => me.stores env msg && env.driver inst = .success
  | _ => false

def SwImages.startsActivate (images : SwImages) : SwImageEvent → Bool
  | .activateImage inst _ _ => (images.me inst).any SwImage.ready
  | _ => false

def SwImages.startsCommit (images : SwImages) : SwImageEvent → Bool
  | .commitImage inst env _ => (images.me inst).any fun me => me.ready && env.driver inst = .success
  | _ => false

/-- The lock and the operations that hold it. -/
structure SwOps where
  cantReboot : BitVec 32
  writes : List FlashWrite
  commits : List InstanceId

def SwImages.ops (images : SwImages) : SwOps :=
  ⟨images.cantReboot, images.writes, images.commits⟩

/-- What one event does to the lock and the operations. -/
inductive OpsMoved (images : SwImages) (event : SwImageEvent) : SwOps → Prop
  | same (hwrite : images.startsWrite event = false)
      (hactivate : images.startsActivate event = false)
      (hcommit : images.startsCommit event = false)
      (hendDlCb : ∀ write version valid, event ≠ .endDlCb write version valid)
      (hcommitCb : ∀ commit, event ≠ .commitCb commit) : OpsMoved images event images.ops
  | write (inst : InstanceId) (env : SwImageEnv) (msg : OmciMsg) (data : Memory)
      (hevent : event = .endDl inst env msg) (hstarts : images.startsWrite event = true) :
      OpsMoved images event
        ⟨images.cantReboot + 1, ⟨swImageId inst, data⟩ :: images.writes, images.commits⟩
  | activate (hstarts : images.startsActivate event = true) :
      OpsMoved images event ⟨images.cantReboot + 1, images.writes, images.commits⟩
  | commit (inst : InstanceId) (hstarts : images.startsCommit event = true) :
      OpsMoved images event
        ⟨images.cantReboot + 1, images.writes, swImageId inst :: images.commits⟩
  | endDlCb (write : Nat) (version : List Byte) (valid : Bool)
      (hevent : event = .endDlCb write version valid) (hwrite : write < images.writes.length) :
      OpsMoved images event
        ⟨images.cantReboot - 1, images.writes.eraseIdx write, images.commits⟩
  | commitCb (commit : Nat) (hevent : event = .commitCb commit)
      (hcommit : commit < images.commits.length) :
      OpsMoved images event
        ⟨images.cantReboot - 1, images.writes, images.commits.eraseIdx commit⟩

section Ops

variable {images images' : SwImages} {event : SwImageEvent}

/-- `SwImage.ready` is what ACTIVATE and COMMIT check. -/
theorem refused_eq_none_iff (me : SwImage) (rsp : OmciMsg) :
    me.refused rsp = none ↔ me.ready = true := by
  unfold SwImage.refused SwImage.ready
  split
  · rename_i hbusy
    simp [hbusy.1, hbusy.2]
  · rename_i hidle
    have hstatus : me.status = .none ∨ me.status = .writingComplete := by
      by_contra hother
      exact hidle ⟨fun h => hother (.inl h), fun h => hother (.inr h)⟩
    cases hvalid : me.isValid <;> simp [hstatus]

variable {me : SwImage}

theorem exists_refused (hready : me.ready = false) (rsp : OmciMsg) :
    ∃ answer, me.refused rsp = some answer := by
  apply Option.ne_none_iff_exists'.mp
  rw [Ne, refused_eq_none_iff, hready]
  exact Bool.false_ne_true

variable {inst : InstanceId} {env : SwImageEnv}

theorem activate_of_not_ready (hready : me.ready = false) (rsp : OmciMsg) :
    (activateImageActionHandle images env inst me rsp).images = images := by
  obtain ⟨answer, hanswer⟩ := exists_refused hready (rsp.withResult mrCmdError)
  rw [activateImageActionHandle, hanswer]

theorem commit_of_not_ready (hready : me.ready = false) (rsp : OmciMsg) :
    (commitImageActionHandle images env inst me rsp).images = images := by
  obtain ⟨answer, hanswer⟩ := exists_refused hready (rsp.withResult mrCmdError)
  rw [commitImageActionHandle, hanswer]

/-- END_DL hands over an image exactly if it starts to write one. -/
theorem endDl_stores {after : SwImage}
    {msg rsp rsp' : OmciMsg} {err : OmciError} {data : Option Memory}
    (h : endDl env inst me msg rsp = some (after, err, rsp', data)) :
    data.isSome = (me.stores env msg && env.driver inst = .success) := by
  rw [endDl] at h
  dsimp only at h
  split at h
  case h_1 hstatus | h_2 hstatus | h_3 hstatus =>
    obtain ⟨_, _, _, rfl⟩ : _ ∧ _ ∧ _ ∧ none = data := by simpa using h
    simp [SwImage.stores, hstatus]
  · rename_i hstatus
    split at h
    · rename_i huse
      obtain ⟨_, _, _, rfl⟩ : _ ∧ _ ∧ _ ∧ none = data := by simpa using h
      rcases Bool.or_eq_true _ _ ▸ huse with hused | hused <;> simp_all [SwImage.stores]
    · rename_i hfree
      obtain ⟨hcommitted, hactive⟩ : me.isCommitted = false ∧ me.isActive = false := by
        simpa using hfree
      split at h
      · cases h
      · rename_i crc hcrc
        have hown : me.crc = some crc := hcrc
        split at h
        · rename_i hwrong
          obtain ⟨_, _, _, rfl⟩ : _ ∧ _ ∧ _ ∧ none = data := by simpa using h
          simp [SwImage.stores, hown, hwrong]
        · split at h
          · rename_i hwrong
            obtain ⟨_, _, _, rfl⟩ : _ ∧ _ ∧ _ ∧ none = data := by simpa using h
            have hwrong' : ¬ me.imageSize = msg.field32 4 := hwrong
            simp [SwImage.stores, hwrong']
          · split at h
            · rename_i hfile
              obtain ⟨_, _, _, rfl⟩ : _ ∧ _ ∧ _ ∧ none = data := by simpa using h
              have hfile' : env.file = false := by simpa using hfile
              simp [SwImage.stores, hfile']
            · split at h
              · rename_i hdriver
                obtain ⟨_, _, _, rfl⟩ : _ ∧ _ ∧ _ ∧ none = data := by simpa using h
                have hdriver' : env.driver inst ≠ .success := by simpa using hdriver
                simp [hdriver']
              · rename_i hsame hsize hfile hdriver
                obtain ⟨_, _, _, rfl⟩ : _ ∧ _ ∧ _ ∧ some _ = data := by simpa using h
                have hsize' : me.imageSize = msg.field32 4 := not_not.mp hsize
                simp_all [SwImage.stores]

/-- ACTIVATE takes the lock as soon as its checks are passed. -/
theorem ops_activate (rsp : OmciMsg) :
    (activateImageActionHandle images env inst me rsp).images.ops =
      if me.ready then ⟨images.cantReboot + 1, images.writes, images.commits⟩
      else images.ops := by
  cases hready : me.ready with
  | false =>
      rw [activate_of_not_ready hready]
      rfl
  | true =>
      rw [activateImageActionHandle, (refused_eq_none_iff me _).mpr hready]
      dsimp only
      split
      · rfl
      · split
        · rfl
        · split <;> rfl

/-- COMMIT takes the lock if the driver starts its thread. -/
theorem ops_commit (rsp : OmciMsg) : (commitImageActionHandle images env inst me rsp).images.ops =
      if me.ready && env.driver inst = .success then
        ⟨images.cantReboot + 1, images.writes, swImageId inst :: images.commits⟩
      else images.ops := by
  cases hready : me.ready with
  | false =>
      rw [commit_of_not_ready hready]
      rfl
  | true =>
      rw [commitImageActionHandle, (refused_eq_none_iff me _).mpr hready]
      dsimp only
      split
      · rename_i hdriver
        have hfailed : env.driver inst ≠ .success := by simpa using hdriver
        simp [hfailed]
      · rename_i hdriver
        have hdone : env.driver inst = .success := by simpa using hdriver
        rw [if_pos (by simp [hdone])]
        split
        · rfl
        · split <;> rfl

/-- What a step does to the lock and the operations. -/
theorem swImageStep_ops (hstep : swImageStep images event = some images') :
    OpsMoved images event images'.ops := by
  cases swImageStep_cases hstep with
  | startDl env msg hme | dlSection msg hme hafter | timeout hme htimeout =>
      exact .same rfl rfl rfl nofun nofun
  | @endDl inst me _ _ _ env msg hme hend =>
      have hstarts : images.startsWrite (.endDl inst env msg) =
          (me.stores env msg && env.driver inst = .success) := by
        simp [SwImages.startsWrite, hme]
      exact .same (hstarts.trans (endDl_stores hend).symm) rfl rfl nofun nofun
  | @stored inst me _ _ _ data env msg hme hend =>
      have hstarts : images.startsWrite (.endDl inst env msg) =
          (me.stores env msg && env.driver inst = .success) := by
        simp [SwImages.startsWrite, hme]
      exact .write inst env msg data rfl (hstarts.trans (endDl_stores hend).symm)
  | @activateImage inst me env msg hme =>
      have hstarts : images.startsActivate (.activateImage inst env msg) = me.ready := by
        simp [SwImages.startsActivate, hme]
      rw [ops_activate]
      split
      · rename_i hready
        exact .activate (hstarts.trans hready)
      · rename_i hready
        exact .same rfl (hstarts.trans (by simpa using hready)) rfl nofun nofun
  | @commitImage inst me env msg hme =>
      have hstarts : images.startsCommit (.commitImage inst env msg) =
          (me.ready && env.driver inst = .success) := by
        simp [SwImages.startsCommit, hme]
      rw [ops_commit]
      split
      · rename_i hready
        exact .commit inst (hstarts.trans hready)
      · rename_i hready
        exact .same rfl rfl (hstarts.trans (by simpa using hready)) nofun nofun
  | endDlCb version valid hjob hme =>
      obtain ⟨hlt, _⟩ := List.getElem?_eq_some_iff.mp hjob
      exact .endDlCb _ version valid rfl hlt
  | commitCb hjob =>
      obtain ⟨hlt, _⟩ := List.getElem?_eq_some_iff.mp hjob
      exact .commitCb _ rfl hlt

end Ops

/-! ## Threads -/

/-- END_DL makes the driver delete the thread that writes an image. If the driver then
fails, `deleted` says whether it got that far. -/
def SwImages.deletesWrite (images : SwImages) (deleted : Bool) : SwImageEvent → Bool
  | .endDl inst env msg =>
      (images.me inst).any (SwImage.stores · env msg) && swImageSlot inst = 0 &&
        (env.api = .success || deleted)
  | _ => false

def SwImages.deletesCommit (images : SwImages) : SwImageEvent → Bool
  | .commitImage inst _ _ => (images.me inst).any SwImage.ready && swImageSlot inst = 0
  | _ => false

theorem driver_eq_success_iff {env : SwImageEnv} {inst : InstanceId} :
    env.driver inst = .success ↔ swImageSlot inst = 0 ∧ env.api = .success := by
  by_cases hslot : swImageSlot inst = 0
  · simp [SwImageEnv.driver, hslot]
  · simp only [SwImageEnv.driver, if_neg hslot]
    exact iff_of_false nofun fun h => hslot h.1

section Deletes

variable {images : SwImages} {event : SwImageEvent}

theorem deletesWrite_of_startsWrite (deleted : Bool) (h : images.startsWrite event = true) :
    images.deletesWrite deleted event = true := by
  unfold SwImages.startsWrite at h
  split at h
  · rename_i inst env msg
    obtain ⟨me, hme, hstores⟩ := (Option.any_eq_true _ _).mp h
    rw [Bool.and_eq_true, decide_eq_true_eq, driver_eq_success_iff] at hstores
    simp [SwImages.deletesWrite, hme, hstores]
  · cases h

theorem deletesCommit_of_startsCommit (h : images.startsCommit event = true) :
    images.deletesCommit event = true := by
  unfold SwImages.startsCommit at h
  split at h
  · rename_i inst env msg
    obtain ⟨me, hme, hready⟩ := (Option.any_eq_true _ _).mp h
    rw [Bool.and_eq_true, decide_eq_true_eq, driver_eq_success_iff] at hready
    simp [SwImages.deletesCommit, hme, hready]
  · cases h

end Deletes

/-- The Software Image entities, whose `writes` and `commits` have a running thread. -/
structure SwFlash where
  images : SwImages
  /-- Images that a programmer still writes after its thread has been deleted. -/
  orphans : List FlashWrite

/-- Delete the threads that the event makes the driver delete. -/
def SwFlash.deleteThreads (flash : SwFlash) (event : SwImageEvent) (deleted : Bool) : SwFlash :=
  let write := flash.images.deletesWrite deleted event
  let commit := flash.images.deletesCommit event
  { images :=
      { flash.images with
        writes := if write then [] else flash.images.writes
        commits := if commit then [] else flash.images.commits }
    orphans := if write then flash.images.writes ++ flash.orphans else flash.orphans }

/-- `reboot_acion_handle`; `api` is the result of `omci_api_reboot`. -/
def rebootAcionHandle (images : SwImages) (api : OmciError) (rsp : OmciMsg) : SwImageResult :=
  if images.cantReboot ≠ 0 then ⟨images, .success, rsp.withResult mrDeviceBusy⟩
  else
    ⟨{ images with cantReboot := images.cantReboot + 1 }, api,
      rsp.withResult (if api ≠ .success then mrCmdError else mrCmdSuccess)⟩

/-- A step of the entities, a REBOOT request, or the end of a programmer without thread. -/
inductive SwFlashEvent
  | image (event : SwImageEvent) (deleted : Bool)
  | reboot (api : OmciError) (msg : OmciMsg)
  | orphanDone (orphan : Nat)

/-- One event after the other. -/
def swFlashStep (flash : SwFlash) : SwFlashEvent → Option SwFlash
  | .image event deleted =>
      let flash := flash.deleteThreads event deleted
      (swImageStep flash.images event).map fun images => { flash with images }
  | .reboot api msg =>
      some { flash with images := (rebootAcionHandle flash.images api (rspCreate msg)).images }
  | .orphanDone orphan =>
      if orphan < flash.orphans.length then
        some { flash with orphans := flash.orphans.eraseIdx orphan }
      else none

def swFlashInit (attrs : InstanceId → Option OmciMeSwImage) : SwFlash where
  images := swImagesInit attrs
  orphans := []

end FalconGpon.Omci
