/-
# Flash workers

The software image API writes the flash in three kinds of worker thread: one clears the valid
flag of an image at the start of a download, one stores the image at its end, one commits an
image. Each kind has one static thread control, whose running thread the next call deletes.
A worker runs the programmers `mtd` and `fw_setenv` as child processes and looks at nothing
but whether they have exited; the child of a deleted worker goes on by itself.

Deleting a thread stops it wherever it is, and `fw_setenv` writes at once when it ends.
-/

import FalconGpon.Lib.Transition
import Mathlib.Data.List.Nodup

namespace FalconGpon.Api

open FalconGpon.Lib

/-! ## Child processes -/

/-- How a child process has ended. -/
structure ChildEnd where
  /-- `WIFEXITED`. -/
  exited : Bool
  /-- `WEXITSTATUS`. -/
  status : BitVec 8
  /-- The program has done its write. It has not where `execlp` failed and the child, a copy of
  the thread in a memory of its own, has run on to the end of the thread. -/
  wrote : Bool
deriving DecidableEq

/-- A child process and the image it works for. -/
inductive ChildJob
  | flash (image : Nat)
  | version (image : Nat)
  | validFlag (image : Nat) (isValid : Bool)
  | committed (image : Nat)
deriving DecidableEq

/-! ## Workers -/

/-- `omci_api_sw_image_image_invalidate_thread`. -/
structure InvalidateWorker where
  image : Nat
  /-- It waits for `fw_setenv`. -/
  waits : Bool
deriving DecidableEq

def InvalidateWorker.child (w : InvalidateWorker) : Option ChildJob :=
  if w.waits then some (.validFlag w.image false) else none

/-- Where `omci_api_sw_image_image_store_thread` stands. -/
inductive StorePc
  | begin
  | flash
  | flashWait
  | version
  | versionWait
  | valid
  | validWait
  | callback (valid : Bool)
deriving DecidableEq

/-- What a store worker has seen: the firmware update guard, and the ends of its children. -/
structure StoreEvidence where
  guarded : Bool
  flash : Option ChildEnd
  version : Option ChildEnd
  validFlag : Option ChildEnd
deriving DecidableEq

/-- `omci_api_sw_image_image_store_thread`, for a call of download end. -/
structure StoreWorker where
  call : Nat
  image : Nat
  pc : StorePc
  evidence : StoreEvidence
deriving DecidableEq

/-- The child that the worker waits for. -/
def StoreWorker.child (w : StoreWorker) : Option ChildJob :=
  match w.pc with
  | .flashWait => some (.flash w.image)
  | .versionWait => some (.version w.image)
  | .validWait => some (.validFlag w.image true)
  | _ => none

/-- Where `omci_api_sw_image_image_commit_thread` stands. -/
inductive CommitPc
  | begin
  | fork
  | wait
  | callback (committed : Bool)
deriving DecidableEq

/-- `omci_api_sw_image_image_commit_thread`, for a call of commit. -/
structure CommitWorker where
  call : Nat
  image : Nat
  pc : CommitPc
deriving DecidableEq

/-- The child that the worker waits for. -/
def CommitWorker.child (w : CommitWorker) : Option ChildJob :=
  match w.pc with
  | .wait => some (.committed w.image)
  | _ => none

/-! ## States -/

/-- The functions that call back. -/
inductive FlashFunction
  | downloadEnd
  | commit
deriving DecidableEq

/-- A call that was answered with success. -/
structure FlashCall where
  function : FlashFunction
  image : Nat
deriving DecidableEq

/-- A completion callback for a call; that of a store comes with what the worker has seen. -/
structure FlashCallback where
  call : Nat
  image : Nat
  valid : Bool
  evidence : Option StoreEvidence
deriving DecidableEq

/-- The environment of the boot loader, the workers, and the calls so far. The last three
fields follow the downloads and are not read by the code. -/
structure FlashState where
  /-- `image0_is_valid`, `image1_is_valid`. -/
  isValid : Nat → Bool
  invalidate : Option InvalidateWorker
  store : Option StoreWorker
  commit : Option CommitWorker
  /-- Children whose worker is gone. -/
  orphans : List ChildJob
  calls : List FlashCall
  callbacks : List FlashCallback
  /-- The flash of the image is overwritten, and not stored. -/
  dirty : Nat → Bool
  /-- The image is stored, and no download of it was started since. -/
  stored : Nat → Bool
  /-- The flag of the image was cleared, and not set since. -/
  cleared : Nat → Bool

namespace FlashState

/-- No worker has run. -/
def initial (isValid : Nat → Bool) : FlashState where
  isValid := isValid
  invalidate := none
  store := none
  commit := none
  orphans := []
  calls := []
  callbacks := []
  dirty _ := false
  stored _ := false
  cleared _ := false

def children (s : FlashState) : List ChildJob :=
  s.orphans ++ s.invalidate.toList.filterMap InvalidateWorker.child ++
    s.store.toList.filterMap StoreWorker.child ++ s.commit.toList.filterMap CommitWorker.child

/-! ## What the steps are made of -/

def leave (child : Option ChildJob) (s : FlashState) : FlashState :=
  { s with orphans := s.orphans ++ child.toList }

/-- `IFXOS_ThreadDelete` of the invalidate thread. -/
def deleteInvalidate (s : FlashState) : FlashState :=
  { s.leave (s.invalidate.bind InvalidateWorker.child) with invalidate := none }

/-- `IFXOS_ThreadDelete` of the store thread. -/
def deleteStore (s : FlashState) : FlashState :=
  { s.leave (s.store.bind StoreWorker.child) with store := none }

/-- `IFXOS_ThreadDelete` of the commit thread. -/
def deleteCommit (s : FlashState) : FlashState :=
  { s.leave (s.commit.bind CommitWorker.child) with commit := none }

/-- The flag of an image is written; the store of a download ends with setting it. -/
def writeFlag (image : Nat) (isValid : Bool) (s : FlashState) : FlashState :=
  { s with
    isValid := Function.update s.isValid image isValid
    dirty := if isValid then Function.update s.dirty image false else s.dirty
    stored := if isValid then Function.update s.stored image true else s.stored
    cleared := Function.update s.cleared image (!isValid) }

/-- What the end of a child changes. -/
def finish (job : ChildJob) (end' : ChildEnd) (s : FlashState) : FlashState :=
  match job with
  | .validFlag image isValid => if end'.wrote then s.writeFlag image isValid else s
  | _ => s

def storeGoes (w : StoreWorker) (pc : StorePc) (s : FlashState) : FlashState :=
  { s with store := some { w with pc := pc } }

def storeWaited (w : StoreWorker) (end' : ChildEnd) (pc : StorePc) (s : FlashState) : FlashState :=
  s.storeGoes w (if end'.exited then pc else .callback false)

def commitGoes (w : CommitWorker) (pc : CommitPc) (s : FlashState) : FlashState :=
  { s with commit := some { w with pc := pc } }

section

variable (s : FlashState) (job : ChildJob) (end' : ChildEnd)

theorem finish_cases : s.finish job end' = s ∨
    ∃ image isValid, job = .validFlag image isValid ∧ end'.wrote = true ∧
      s.finish job end' = s.writeFlag image isValid := by
  cases job with
  | validFlag image isValid =>
      rw [finish]
      by_cases hwrote : end'.wrote = true
      · exact .inr ⟨image, isValid, rfl, hwrote, if_pos hwrote⟩
      · exact .inl (if_neg hwrote)
  | flash image => exact .inl rfl
  | version image => exact .inl rfl
  | committed image => exact .inl rfl

@[simp] theorem finish_store : (s.finish job end').store = s.store := by
  obtain h | ⟨_, _, _, _, h⟩ := s.finish_cases job end' <;> rw [h]
  rfl

@[simp] theorem finish_commit : (s.finish job end').commit = s.commit := by
  obtain h | ⟨_, _, _, _, h⟩ := s.finish_cases job end' <;> rw [h]
  rfl

@[simp] theorem finish_orphans : (s.finish job end').orphans = s.orphans := by
  obtain h | ⟨_, _, _, _, h⟩ := s.finish_cases job end' <;> rw [h]
  rfl

end

end FlashState

/-! ## Steps -/

/-- Calls of the API, steps of the workers, and ends of children that are left behind. The
arguments say what the system answers: whether files, memory, processes and threads are there,
what the guard is, and how a child has ended, `none` where `waitpid` fails. -/
inductive FlashEvent
  | downloadStart (image : Nat) (threadInit : Bool)
  | downloadEnd (image : Nat) (fileStat memAlloc threadInit : Bool)
  | commit (image : Nat) (memAlloc threadInit : Bool)
  | invalidateFork (forked : Bool)
  | invalidateWait (end' : Option ChildEnd)
  | storeBegin (header guarded : Bool)
  | storeFork (forked : Bool)
  | storeWait (end' : Option ChildEnd)
  | storeCallback
  | commitBegin (guarded : Bool)
  | commitFork (forked : Bool)
  | commitWait (end' : Option ChildEnd)
  | commitCallback
  | orphanEnd (index : Nat) (end' : ChildEnd)
deriving DecidableEq

namespace FlashState

/-- `omci_api_sw_image_download_start`, `omci_api_falcon_sw_image_download_start`. -/
def downloadStart (s : FlashState) (image : Nat) (threadInit : Bool) : FlashState :=
  if 1 < image then s
  else if threadInit then
    { s.deleteInvalidate with
      invalidate := some ⟨image, false⟩
      stored := Function.update s.stored image false }
  else s.deleteInvalidate

/-- `omci_api_sw_image_download_end`. -/
def downloadEnd (s : FlashState) (image : Nat) (fileStat memAlloc threadInit : Bool) : FlashState :=
  if 1 < image then s
  else if !fileStat then s
  else if !memAlloc then s
  else if threadInit then
    { s.deleteStore with
      store := some ⟨s.calls.length, image, .begin, ⟨false, none, none, none⟩⟩
      calls := s.calls ++ [⟨.downloadEnd, image⟩] }
  else s.deleteStore

/-- `omci_api_sw_image_commit`. -/
def commitCall (s : FlashState) (image : Nat) (memAlloc threadInit : Bool) : FlashState :=
  if 1 < image then s
  else if !memAlloc then s.deleteCommit
  else if threadInit then
    { s.deleteCommit with
      commit := some ⟨s.calls.length, image, .begin⟩
      calls := s.calls ++ [⟨.commit, image⟩] }
  else s.deleteCommit

/-- `omci_api_falcon_uboot_env_set` in the invalidate thread, which ends after it. -/
def invalidateFork (s : FlashState) (forked : Bool) : Option FlashState :=
  match s.invalidate with
  | some w =>
      if w.waits then none
      else some { s with invalidate := if forked then some { w with waits := true } else none }
  | none => none

/-- The invalidate thread has waited for `fw_setenv`. -/
def invalidateWait (s : FlashState) (end' : Option ChildEnd) : Option FlashState :=
  match s.invalidate with
  | some w =>
      if w.waits then
        match end' with
        | some e => some { s.finish (.validFlag w.image false) e with invalidate := none }
        | none => some s.deleteInvalidate
      else none
  | none => none

/-- The store thread checks the header, and `omci_api_falcon_sw_image_store` the guard: with it
on the flash write is left out. -/
def storeBegin (s : FlashState) (header guarded : Bool) : Option FlashState :=
  match s.store with
  | some w =>
      if w.pc = .begin then
        if header then
          some (s.storeGoes { w with evidence := { w.evidence with guarded := guarded } }
            (if guarded then .version else .flash))
        else some (s.storeGoes w (.callback false))
      else none
  | none => none

/-- The store thread starts its next child. Before the flash is written the partition and the
file are looked up as well. -/
def storeFork (s : FlashState) (forked : Bool) : Option FlashState :=
  match s.store with
  | some w =>
      match w.pc with
      | .flash =>
          if forked then
            some { s.storeGoes w .flashWait with dirty := Function.update s.dirty w.image true }
          else some (s.storeGoes w (.callback false))
      | .version => some (s.storeGoes w (if forked then .versionWait else .callback false))
      | .valid => some (s.storeGoes w (if forked then .validWait else .callback false))
      | _ => none
  | none => none

/-- The store thread has waited for its child. It looks at `WIFEXITED` only. -/
def storeWait (s : FlashState) (end' : Option ChildEnd) : Option FlashState :=
  match s.store with
  | some w =>
      match w.child, end' with
      | some job, none => some ((s.leave (some job)).storeGoes w (.callback false))
      | some job, some e =>
          match w.pc with
          | .flashWait =>
              some ((s.finish job e).storeWaited
                { w with evidence := { w.evidence with flash := some e } } e .version)
          | .versionWait =>
              some ((s.finish job e).storeWaited
                { w with evidence := { w.evidence with version := some e } } e .valid)
          | _ =>
              some ((s.finish job e).storeWaited
                { w with evidence := { w.evidence with validFlag := some e } } e
                (.callback true))
      | none, _ => none
  | none => none

/-- The store thread calls back and ends. -/
def storeCallback (s : FlashState) : Option FlashState :=
  match s.store with
  | some w =>
      match w.pc with
      | .callback valid =>
          some
            { s with
              store := none
              callbacks := s.callbacks ++ [⟨w.call, w.image, valid, some w.evidence⟩] }
      | _ => none
  | none => none

/-- `omci_api_falcon_sw_image_commit` looks at the guard: with it on the image is committed in
memory only. -/
def commitBegin (s : FlashState) (guarded : Bool) : Option FlashState :=
  match s.commit with
  | some w =>
      if w.pc = .begin then
        some (s.commitGoes w (if guarded then .callback true else .fork))
      else none
  | none => none

/-- The commit thread starts `fw_setenv`. -/
def commitFork (s : FlashState) (forked : Bool) : Option FlashState :=
  match s.commit with
  | some w =>
      if w.pc = .fork then
        some (s.commitGoes w (if forked then .wait else .callback false))
      else none
  | none => none

/-- The commit thread has waited for `fw_setenv`. -/
def commitWait (s : FlashState) (end' : Option ChildEnd) : Option FlashState :=
  match s.commit with
  | some w =>
      if w.pc = .wait then
        match end' with
        | some e => some ((s.finish (.committed w.image) e).commitGoes w (.callback e.exited))
        | none => some ((s.leave (some (.committed w.image))).commitGoes w (.callback false))
      else none
  | none => none

/-- The commit thread calls back and ends. -/
def commitCallback (s : FlashState) : Option FlashState :=
  match s.commit with
  | some w =>
      match w.pc with
      | .callback committed =>
          some
            { s with
              commit := none
              callbacks := s.callbacks ++ [⟨w.call, w.image, committed, none⟩] }
      | _ => none
  | none => none

/-- A child that was left behind ends. -/
def orphanEnd (s : FlashState) (index : Nat) (end' : ChildEnd) : Option FlashState :=
  match s.orphans[index]? with
  | some job => some { s.finish job end' with orphans := s.orphans.eraseIdx index }
  | none => none

/-- One step of the API, of a worker or of a child. -/
def step (s : FlashState) : FlashEvent → Option FlashState
  | .downloadStart image threadInit => some (s.downloadStart image threadInit)
  | .downloadEnd image fileStat memAlloc threadInit =>
      some (s.downloadEnd image fileStat memAlloc threadInit)
  | .commit image memAlloc threadInit => some (s.commitCall image memAlloc threadInit)
  | .invalidateFork forked => s.invalidateFork forked
  | .invalidateWait end' => s.invalidateWait end'
  | .storeBegin header guarded => s.storeBegin header guarded
  | .storeFork forked => s.storeFork forked
  | .storeWait end' => s.storeWait end'
  | .storeCallback => s.storeCallback
  | .commitBegin guarded => s.commitBegin guarded
  | .commitFork forked => s.commitFork forked
  | .commitWait end' => s.commitWait end'
  | .commitCallback => s.commitCallback
  | .orphanEnd index end' => s.orphanEnd index end'

end FlashState

end FalconGpon.Api
