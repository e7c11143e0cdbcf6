/-
# The reboot lock

`cant_reboot` counts what must not be interrupted by a reboot. It is the number of writes
and commits whose thread is running, and REBOOT is refused exactly while there are any, in
every state of a run that does none of the following: an ACTIVATE passes its checks, which
takes the lock for good; a REBOOT is granted, which takes it too; END_DL or COMMIT deletes
a thread that is running, whose callback then never gives it back
(`swReboot_locked_iff`).
-/

import FalconGpon.Omci.SwFlash

namespace FalconGpon.Omci

open FalconGpon.Lib

def SwFlash.outstanding (flash : SwFlash) : Nat :=
  flash.images.writes.length + flash.images.commits.length

/-- The lock counts the outstanding operations, and REBOOT is refused exactly while there
are any. -/
structure SwFlash.Locked (flash : SwFlash) : Prop where
  counted : flash.images.cantReboot.toNat = flash.outstanding
  refused : ∀ api rsp, (rebootAcionHandle flash.images api rsp).rsp.result = mrDeviceBusy ↔
    0 < flash.outstanding

/-- The events after which the lock is held for nothing. -/
def SwFlash.Leaks (flash : SwFlash) : SwFlashEvent → Prop
  | .image event deleted =>
      flash.images.startsActivate event = true ∨
        flash.images.deletesWrite deleted event = true ∧ flash.images.writes ≠ [] ∨
        flash.images.deletesCommit event = true ∧ flash.images.commits ≠ []
  | .reboot _ _ => flash.outstanding = 0
  | .orphanDone _ => False

theorem rebootAcionHandle_refused (images : SwImages) (api : OmciError) (rsp : OmciMsg) :
    (rebootAcionHandle images api rsp).rsp.result = mrDeviceBusy ↔ images.cantReboot ≠ 0 := by
  unfold rebootAcionHandle
  split
  · rename_i hlocked
    exact iff_of_true (OmciMsg.result_withResult _ _) hlocked
  · rename_i hfree
    have hgranted : (if api ≠ .success then mrCmdError else mrCmdSuccess) ≠ mrDeviceBusy := by
      split <;> decide
    simpa [OmciMsg.result_withResult, not_not.mp hfree] using hgranted

theorem SwFlash.locked_iff (flash : SwFlash) :
    flash.Locked ↔ flash.images.cantReboot.toNat = flash.outstanding := by
  constructor
  · exact SwFlash.Locked.counted
  · intro hcounted
    refine ⟨hcounted, fun api rsp => ?_⟩
    rw [rebootAcionHandle_refused, ← hcounted, Nat.pos_iff_ne_zero]
    exact not_congr BitVec.toNat_inj.symm

/-- There is one thread of each kind. -/
structure SwFlash.Single (flash : SwFlash) : Prop where
  writes : flash.images.writes.length ≤ 1
  commits : flash.images.commits.length ≤ 1

section Step

variable {flash : SwFlash} {event : SwImageEvent} {deleted : Bool}

theorem toNat_add_one {lock : BitVec 32} (hle : lock.toNat ≤ 2) :
    (lock + 1).toNat = lock.toNat + 1 := by
  bv_omega

theorem toNat_sub_one {lock : BitVec 32} (hpos : 0 < lock.toNat) :
    (lock - 1).toNat = lock.toNat - 1 := by
  bv_omega

theorem SwImages.not_deletes_of_startsActivate {images : SwImages}
    (h : images.startsActivate event = true) :
    images.deletesWrite deleted event = false ∧ images.deletesCommit event = false := by
  unfold SwImages.startsActivate at h
  split at h
  · exact ⟨rfl, rfl⟩
  · cases h

theorem SwImages.not_deletesWrite_of_startsCommit {images : SwImages}
    (h : images.startsCommit event = true) :
    images.startsActivate event = false ∧ images.deletesWrite deleted event = false := by
  unfold SwImages.startsCommit at h
  split at h
  · exact ⟨rfl, rfl⟩
  · cases h

theorem swFlashStep_image {after : SwFlash}
    (h : swFlashStep flash (.image event deleted) = some after) :
    OpsMoved (flash.deleteThreads event deleted).images event after.images.ops := by
  obtain ⟨images, hstep, rfl⟩ := Option.map_eq_some_iff.mp h
  exact swImageStep_ops hstep

theorem length_deleteThreads_writes (flash : SwFlash) (event : SwImageEvent) (deleted : Bool) :
    (flash.deleteThreads event deleted).images.writes.length =
      if flash.images.deletesWrite deleted event then 0 else flash.images.writes.length := by
  simp only [SwFlash.deleteThreads]
  split <;> rfl

theorem length_deleteThreads_commits (flash : SwFlash) (event : SwImageEvent) (deleted : Bool) :
    (flash.deleteThreads event deleted).images.commits.length =
      if flash.images.deletesCommit event then 0 else flash.images.commits.length := by
  simp only [SwFlash.deleteThreads]
  split <;> rfl

/-- One thread of each kind is left. -/
theorem SwFlash.Single.step {after : SwFlash} {event : SwFlashEvent} (hsingle : flash.Single)
    (h : swFlashStep flash event = some after) : after.Single := by
  cases event with
  | reboot api msg =>
      obtain rfl := Option.some.inj h
      unfold rebootAcionHandle
      split <;> exact ⟨hsingle.writes, hsingle.commits⟩
  | orphanDone orphan =>
      simp only [swFlashStep, Option.ite_none_right_eq_some] at h
      obtain ⟨_, hafter⟩ := h
      obtain rfl := Option.some.inj hafter
      exact ⟨hsingle.writes, hsingle.commits⟩
  | image event deleted =>
      have hmoved := swFlashStep_image h
      have hwrites : (flash.deleteThreads event deleted).images.writes.length ≤ 1 := by
        rw [length_deleteThreads_writes]
        split
        · exact Nat.zero_le 1
        · exact hsingle.writes
      have hcommits : (flash.deleteThreads event deleted).images.commits.length ≤ 1 := by
        rw [length_deleteThreads_commits]
        split
        · exact Nat.zero_le 1
        · exact hsingle.commits
      suffices hops : after.images.ops.writes.length ≤ 1 ∧ after.images.ops.commits.length ≤ 1 from
        ⟨hops.1, hops.2⟩
      generalize after.images.ops = ops at hmoved
      cases hmoved with
      | same => exact ⟨hwrites, hcommits⟩
      | write inst env msg data hevent hstarts =>
          have hdeletes : flash.images.deletesWrite deleted event = true :=
            deletesWrite_of_startsWrite deleted hstarts
          have hnone := length_deleteThreads_writes flash event deleted
          rw [if_pos hdeletes] at hnone
          exact ⟨by simp [hnone], hcommits⟩
      | activate => exact ⟨hwrites, hcommits⟩
      | commit inst hstarts =>
          have hdeletes : flash.images.deletesCommit event = true :=
            deletesCommit_of_startsCommit hstarts
          have hnone := length_deleteThreads_commits flash event deleted
          rw [if_pos hdeletes] at hnone
          exact ⟨hwrites, by simp [hnone]⟩
      | endDlCb write =>
          exact ⟨(List.length_eraseIdx_le _ _).trans hwrites, hcommits⟩
      | commitCb commit =>
          exact ⟨hwrites, (List.length_eraseIdx_le _ _).trans hcommits⟩

/-- A step of the entities keeps the lock right exactly if it does not leak it. -/
theorem SwFlash.locked_image {after : SwFlash} (hsingle : flash.Single) (hlocked : flash.Locked)
    (h : swFlashStep flash (.image event deleted) = some after) :
    after.Locked ↔ ¬ flash.Leaks (.image event deleted) := by
  have hmoved := swFlashStep_image h
  have hcounted : flash.images.cantReboot.toNat =
      flash.images.writes.length + flash.images.commits.length := hlocked.counted
  have hw := hsingle.writes
  have hc := hsingle.commits
  have hwrites := length_deleteThreads_writes flash event deleted
  have hcommits := length_deleteThreads_commits flash event deleted
  have hlock : (flash.deleteThreads event deleted).images.cantReboot =
    flash.images.cantReboot := rfl
  have hle : flash.images.cantReboot.toNat ≤ 2 := by omega
  rw [SwFlash.locked_iff]
  suffices hops : after.images.ops.cantReboot.toNat =
      after.images.ops.writes.length + after.images.ops.commits.length ↔
        ¬ flash.Leaks (.image event deleted) from hops
  have hwempty : flash.images.writes ≠ [] ↔ 0 < flash.images.writes.length :=
    List.length_pos_iff.symm
  have hcempty : flash.images.commits ≠ [] ↔ 0 < flash.images.commits.length :=
    List.length_pos_iff.symm
  simp only [SwFlash.Leaks, hwempty, hcempty]
  generalize after.images.ops = ops at hmoved
  cases hmoved with
  | same hwrite hactivate hcommit hendDlCb hcommitCb =>
      have hactivate' : flash.images.startsActivate event = false := hactivate
      simp only [SwImages.ops, hlock, hwrites, hcommits, hactivate', Bool.false_eq_true, false_or]
      split <;> split <;> simp_all
  | write inst env msg data hevent hstarts =>
      have hdeletes : flash.images.deletesWrite deleted event = true :=
        deletesWrite_of_startsWrite deleted hstarts
      have hactivate : flash.images.startsActivate event = false := by rw [hevent]; rfl
      have hkeeps : flash.images.deletesCommit event = false := by rw [hevent]; rfl
      simp only [hlock, toNat_add_one hle, List.length_cons, hwrites, hcommits, hdeletes, hactivate,
        hkeeps, if_true, Bool.false_eq_true, if_false, true_and, false_and, false_or, or_false]
      omega
  | activate hstarts =>
      have hactivate : flash.images.startsActivate event = true := hstarts
      have hkeeps : flash.images.deletesWrite deleted event = false ∧
          flash.images.deletesCommit event = false :=
        SwImages.not_deletes_of_startsActivate hactivate
      simp only [hlock, toNat_add_one hle, hwrites, hcommits, hkeeps, hactivate,
        Bool.false_eq_true, if_false, true_or, not_true_eq_false, iff_false]
      omega
  | commit inst hstarts =>
      have hdeletes : flash.images.deletesCommit event = true :=
        deletesCommit_of_startsCommit hstarts
      have hkeeps : flash.images.startsActivate event = false ∧
          flash.images.deletesWrite deleted event = false :=
        SwImages.not_deletesWrite_of_startsCommit hstarts
      simp only [hlock, toNat_add_one hle, List.length_cons, hwrites, hcommits, hdeletes, hkeeps,
        if_true, Bool.false_eq_true, if_false, true_and, false_and, false_or]
      omega
  | endDlCb write version valid hevent hwrite =>
      have hactivate : flash.images.startsActivate event = false := by rw [hevent]; rfl
      have hkeeps : flash.images.deletesWrite deleted event = false ∧
          flash.images.deletesCommit event = false := by
        rw [hevent]
        exact ⟨rfl, rfl⟩
      rw [hwrites, hkeeps.1, if_neg Bool.false_ne_true] at hwrite
      simp only [hlock, List.length_eraseIdx_of_lt, hwrites, hcommits, hkeeps, hactivate,
        Bool.false_eq_true, if_false, false_and, false_or, not_false_eq_true, iff_true, hwrite]
      rw [toNat_sub_one (by omega)]
      omega
  | commitCb commit hevent hcommit =>
      have hactivate : flash.images.startsActivate event = false := by rw [hevent]; rfl
      have hkeeps : flash.images.deletesWrite deleted event = false ∧
          flash.images.deletesCommit event = false := by
        rw [hevent]
        exact ⟨rfl, rfl⟩
      rw [hcommits, hkeeps.2, if_neg Bool.false_ne_true] at hcommit
      simp only [hlock, List.length_eraseIdx_of_lt, hwrites, hcommits, hkeeps, hactivate,
        Bool.false_eq_true, if_false, false_and, false_or, not_false_eq_true, iff_true, hcommit]
      rw [toNat_sub_one (by omega)]
      omega

/-- A step keeps the lock right exactly if it is not one that leaks it. -/
theorem SwFlash.locked_step {after : SwFlash} {event : SwFlashEvent} (hsingle : flash.Single)
    (hlocked : flash.Locked) (h : swFlashStep flash event = some after) :
    after.Locked ↔ ¬ flash.Leaks event := by
  cases event with
  | image event deleted => exact SwFlash.locked_image hsingle hlocked h
  | orphanDone orphan =>
      simp only [swFlashStep, Option.ite_none_right_eq_some] at h
      obtain ⟨_, hafter⟩ := h
      obtain rfl := Option.some.inj hafter
      exact iff_of_true ((SwFlash.locked_iff _).mpr hlocked.counted) id
  | reboot api msg =>
      obtain rfl := Option.some.inj h
      have hcounted := hlocked.counted
      rw [SwFlash.locked_iff]
      unfold rebootAcionHandle
      split
      · rename_i hheld
        have hpos := (hlocked.refused api (rspCreate msg)).mp
          ((rebootAcionHandle_refused _ _ _).mpr hheld)
        have hbusy : ¬ flash.outstanding = 0 := by omega
        exact iff_of_true hcounted hbusy
      · rename_i hfree
        have hzero : flash.images.cantReboot.toNat = 0 := by simp [not_not.mp hfree]
        have hidle : flash.outstanding = 0 := by omega
        have hle : flash.images.cantReboot.toNat ≤ 2 := by omega
        refine iff_of_false ?_ (not_not_intro hidle)
        intro hafter
        have hafter' : (flash.images.cantReboot + 1).toNat = flash.outstanding := hafter
        rw [toNat_add_one hle] at hafter'
        omega

end Step

/-- In a run the lock is held exactly by the writes and commits whose completion is still to
come, and REBOOT refused exactly while there are any, if and only if no event of the run
leaks the lock. -/
theorem swReboot_locked_iff (attrs : InstanceId → Option OmciMeSwImage)
    (events : List SwFlashEvent) :
    Along swFlashStep (fun _ _ after => after.Locked) (swFlashInit attrs) events ↔
      Along swFlashStep (fun before event _ => ¬ before.Leaks event) (swFlashInit attrs)
        events := by
  have hsingle : (swFlashInit attrs).Single := ⟨Nat.zero_le 1, Nat.zero_le 1⟩
  have hlocked : (swFlashInit attrs).Locked := (SwFlash.locked_iff _).mpr rfl
  -- that there is one thread of each kind holds in every run
  have hadd := @along_congr _ _ swFlashStep SwFlash.Single
    (fun _ _ after => after.Locked) (fun _ _ after => after.Single ∧ after.Locked)
    (fun before event after hbefore h => hbefore.step h)
    (fun before event after hbefore h => (and_iff_right (hbefore.step h)).symm)
    _ hsingle events
  rw [hadd]
  refine along_inv_iff ?_ ⟨hsingle, hlocked⟩ events
  rintro before event after ⟨hone, hcounted⟩ h
  rw [← SwFlash.locked_step hone hcounted h]
  exact and_iff_right (hone.step h)

/-- An ACTIVATE of a valid image, which the driver carries out at once, holds the lock with
nothing outstanding: REBOOT is refused from then on. -/
theorem swReboot_not_locked :
    ¬ ∀ events, Along swFlashStep (fun _ _ after => after.Locked) (swFlashInit sampleImages)
      events := by
  intro hall
  have hrun := hall [.image (.activateImage 0 sampleEnv (sampleRequest 0x56 [])) false]
  simp only [SwFlash.locked_iff] at hrun
  revert hrun
  decide

end FalconGpon.Omci
