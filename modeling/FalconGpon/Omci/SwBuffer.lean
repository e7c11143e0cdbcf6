/-
# The memory of a download

An entity whose status is `downloading` has memory for exactly the announced image, and
sections and the CRC stay within it (`BufferSafe`), as long as no START_DL is refused
during a download and no section number gets so large that the end of the section wraps
around in 32 bits. A START_DL that is refused during a download frees the memory and
leaves the status alone.
-/

import FalconGpon.Lib.Transition
import FalconGpon.Omci.SwImage

namespace FalconGpon.Omci

open FalconGpon.Lib

/-! ## What an event does to one entity -/

/-- What one event makes of the entity with an instance identifier. -/
inductive SwImageMoved (inst : InstanceId) (event : SwImageEvent) (me : SwImage) :
    SwImage → Prop
  | same : SwImageMoved inst event me me
  | startDl (env : SwImageEnv) (msg : OmciMsg) (hevent : event = .startDl inst env msg) :
      SwImageMoved inst event me
        { (startDl env inst me msg (rspCreate msg)).1 with sections := [], windows := [] }
  | dlSection (msg rsp : OmciMsg) (after : SwImage) (hevent : event = .dlSection inst msg)
      (hresult : dlSection me msg (rspCreate msg) = some (after, rsp)) :
      SwImageMoved inst event me (me.noteSection after msg rsp)
  | endDl (env : SwImageEnv) (msg rsp : OmciMsg) (after : SwImage) (err : OmciError)
      (data : Option Memory) (hevent : event = .endDl inst env msg)
      (hresult : endDl env inst me msg (rspCreate msg) = some (after, err, rsp, data)) :
      SwImageMoved inst event me after
  | active (isActive : Bool) : SwImageMoved inst event me { me with isActive := isActive }
  | committed (isCommitted : Bool) :
      SwImageMoved inst event me { me with isCommitted := isCommitted }
  | timeout (hevent : event = .timeout inst) (htimeout : me.timeout = true) :
      SwImageMoved inst event me { me with data := none, status := .none, timeout := false }
  | endDlCb (write : Nat) (version : List Byte) (valid : Bool)
      (hevent : event = .endDlCb write version valid) :
      SwImageMoved inst event me (me.endWrite version valid)

section Moved

variable {images images' : SwImages} {event : SwImageEvent}

/-- Every entity comes from one that was there. -/
def SwImages.Moved (images : SwImages) (event : SwImageEvent)
    (after : InstanceId → Option SwImage) : Prop :=
  ∀ inst me', after inst = some me' →
    ∃ me, images.me inst = some me ∧ SwImageMoved inst event me me'

theorem SwImages.Moved.refl (images : SwImages) (event : SwImageEvent) :
    images.Moved event images.me :=
  fun _ me hme => ⟨me, hme, .same⟩

theorem SwImages.Moved.update {after : InstanceId → Option SwImage}
    (h : images.Moved event after) {inst : InstanceId} {me me' : SwImage}
    (hme : images.me inst = some me) (hmoved : SwImageMoved inst event me me') :
    images.Moved event (Function.update after inst (some me')) := by
  intro other found hfound
  by_cases hother : other = inst
  · subst hother
    rw [Function.update_self] at hfound
    obtain rfl := Option.some.inj hfound
    exact ⟨me, hme, hmoved⟩
  · rw [Function.update_of_ne hother] at hfound
    exact h other found hfound

theorem activateImageActionHandle_moved {inst : InstanceId} {env : SwImageEnv}
    {me : SwImage} (hme : images.me inst = some me) (rsp : OmciMsg) :
    images.Moved event (activateImageActionHandle images env inst me rsp).images.me := by
  have hrefl := SwImages.Moved.refl images event
  rw [activateImageActionHandle]
  dsimp only
  split
  · exact hrefl
  · split
    · exact hrefl
    · split
      · exact hrefl
      · rename_i me2 hme2
        have hboth := (hrefl.update hme (.active true)).update hme2 (.active false)
        split <;> exact hboth

theorem xor_one_ne (inst : InstanceId) : inst ^^^ 1 ≠ inst := by
  intro hsame
  have hone : inst ^^^ (inst ^^^ 1) = inst ^^^ inst := congrArg (inst ^^^ ·) hsame
  rw [← BitVec.xor_assoc, BitVec.xor_self, BitVec.zero_xor] at hone
  exact absurd hone (by decide)

theorem commitImageActionHandle_moved {inst : InstanceId} {env : SwImageEnv}
    {me : SwImage} (hme : images.me inst = some me) (rsp : OmciMsg) :
    images.Moved event (commitImageActionHandle images env inst me rsp).images.me := by
  have hrefl := SwImages.Moved.refl images event
  rw [commitImageActionHandle]
  dsimp only
  split
  · exact hrefl
  · split
    · exact hrefl
    · have hfirst := hrefl.update hme (.committed true)
      simp only [SwImages.set_me, Function.update_of_ne (xor_one_ne inst)]
      split
      · exact hfirst
      · rename_i me2 hme2
        have hboth := hfirst.update hme2 (.committed false)
        split <;> exact hboth

theorem swImageStep_moved (hstep : swImageStep images event = some images') :
    images.Moved event images'.me := by
  have hrefl := SwImages.Moved.refl images event
  cases swImageStep_cases hstep with
  | startDl env msg hme => exact hrefl.update hme (.startDl env msg rfl)
  | dlSection msg hme hafter => exact hrefl.update hme (.dlSection msg _ _ rfl hafter)
  | endDl env msg hme hend => exact hrefl.update hme (.endDl env msg _ _ _ none rfl hend)
  | stored env msg hme hend => exact hrefl.update hme (.endDl env msg _ _ _ (some _) rfl hend)
  | activateImage env msg hme => exact activateImageActionHandle_moved hme _
  | commitImage env msg hme => exact commitImageActionHandle_moved hme _
  | timeout hme htimeout => exact hrefl.update hme (.timeout rfl htimeout)
  | endDlCb version valid hjob hme => exact hrefl.update hme (.endDlCb _ version valid rfl)
  | commitCb hjob => exact hrefl

end Moved

/-! ## The range of a section -/

def sectWraps (imageSize offset : BitVec 32) : Bool :=
  decide (offset + 31 < offset) && decide (offset + 31 ≤ imageSize)

/-- A section that does not wrap stays within the image. -/
theorem sectRange_le {imageSize offset : BitVec 32} {start size : Nat}
    (hwraps : sectWraps imageSize offset = false)
    (hrange : sectRange imageSize offset = some (start, size)) :
    start + size ≤ imageSize.toNat := by
  simp only [sectWraps, Bool.and_eq_false_iff, decide_eq_false_iff_not] at hwraps
  simp only [sectRange] at hrange
  split at hrange
  · split at hrange
    · split at hrange
      · cases hrange
        bv_omega
      · cases hrange
    · split at hrange
      · cases hrange
        bv_omega
      · cases hrange
  · split at hrange
    · cases hrange
      bv_omega
    · cases hrange

theorem size_write {memory memory' : Memory} {offset : Nat} {octets : List Byte}
    (hwrite : memory.write offset octets = some memory') : memory'.size = memory.size := by
  rw [Memory.write] at hwrite
  split at hwrite
  · obtain rfl := Option.some.inj hwrite
    rfl
  · cases hwrite

variable {memory : Memory} {imageSize offset : BitVec 32}

theorem size_copySection {memory memory' : Memory} {msg : OmciMsg}
    (hcopy : memory.copySection imageSize offset msg = some memory') :
    memory'.size = memory.size := by
  rw [Memory.copySection] at hcopy
  split at hcopy
  · exact size_write hcopy
  · obtain rfl := Option.some.inj hcopy
    rfl

theorem copySection_isSome (msg : OmciMsg)
    (hsize : memory.size = imageSize.toNat) (hwraps : sectWraps imageSize offset = false) :
    (memory.copySection imageSize offset msg).isSome = true := by
  rw [Memory.copySection]
  split
  · rename_i start size hrange
    have hle := sectRange_le hwraps hrange
    have hlength : ((sectData msg).take size).length ≤ size := by simp
    rw [Memory.write, if_pos (by omega)]
    rfl
  · rfl

/-! ## The ways a section can end -/

/-- `dl_section_action_handle` refuses, drops or copies a section. -/
inductive SectionEnded (me : SwImage) (msg : OmciMsg) : Option (SwImage × OmciMsg) → Prop
  | refused (rsp : OmciMsg) (htaking : me.taking = false) (hresult : rsp.result ≠ mrCmdSuccess) :
      SectionEnded me msg (some (me, rsp))
  | dropped (rsp : OmciMsg) (htaking : me.taking = true)
      (hexpects : (me.restart msg).expects msg = false) (hresult : rsp.result ≠ mrCmdSuccess) :
      SectionEnded me msg (some ({ me.restart msg with currSectReceived := 0 }, rsp))
  | aborted (memory : Memory) (htaking : me.taking = true) (hdata : me.data = some memory)
      (hexpects : (me.restart msg).expects msg = true)
      (hcopy : memory.copySection me.imageSize
        (sectOffset (me.totalSectReceived + sectNum msg)) msg = none) :
      SectionEnded me msg none
  | copied (memory memory' : Memory) (rsp : OmciMsg) (htaking : me.taking = true)
      (hdata : me.data = some memory) (hexpects : (me.restart msg).expects msg = true)
      (hcopy : memory.copySection me.imageSize
        (sectOffset (me.totalSectReceived + sectNum msg)) msg = some memory')
      (hresult : rsp.result =
        if (((me.restart msg).miss msg).copied memory' msg).sectionMissed ≠ 0 then mrCmdError
        else mrCmdSuccess) :
      SectionEnded me msg (some (((me.restart msg).miss msg).copied memory' msg, rsp))

section Section

variable {me : SwImage} {msg : OmciMsg}

@[simp]
theorem restart_data : (me.restart msg).data = me.data := by
  rw [SwImage.restart]
  split <;> rfl

@[simp]
theorem restart_imageSize : (me.restart msg).imageSize = me.imageSize := by
  rw [SwImage.restart]
  split <;> rfl

@[simp]
theorem restart_totalSectReceived : (me.restart msg).totalSectReceived = me.totalSectReceived := by
  rw [SwImage.restart]
  split <;> rfl

@[simp]
theorem restart_currSectReceived : (me.restart msg).currSectReceived = me.currSectReceived := by
  rw [SwImage.restart]
  split <;> rfl

@[simp]
theorem restart_status : (me.restart msg).status = me.status := by
  rw [SwImage.restart]
  split <;> rfl

@[simp]
theorem restart_timeout : (me.restart msg).timeout = me.timeout := by
  rw [SwImage.restart]
  split <;> rfl

@[simp]
theorem restart_toOmciMeSwImage : (me.restart msg).toOmciMeSwImage = me.toOmciMeSwImage := by
  rw [SwImage.restart]
  split <;> rfl

@[simp]
theorem miss_imageSize : (me.miss msg).imageSize = me.imageSize := by
  rw [SwImage.miss]
  split <;> rfl

@[simp]
theorem miss_totalSectReceived : (me.miss msg).totalSectReceived = me.totalSectReceived := by
  rw [SwImage.miss]
  split <;> rfl

@[simp]
theorem miss_status : (me.miss msg).status = me.status := by
  rw [SwImage.miss]
  split <;> rfl

@[simp]
theorem miss_timeout : (me.miss msg).timeout = me.timeout := by
  rw [SwImage.miss]
  split <;> rfl

@[simp]
theorem miss_toOmciMeSwImage : (me.miss msg).toOmciMeSwImage = me.toOmciMeSwImage := by
  rw [SwImage.miss]
  split <;> rfl

theorem miss_currSectReceived (hexpects : me.expects msg = true) :
    (me.miss msg).currSectReceived = sectNum msg := by
  simp only [SwImage.expects, Bool.or_eq_true, beq_iff_eq] at hexpects
  rw [SwImage.miss]
  split
  · rename_i hne
    exact hexpects.resolve_left hne
  · rename_i heq
    exact not_not.mp heq

@[simp]
theorem copied_data : (me.copied memory msg).data = some memory := by
  rw [SwImage.copied, SwImage.endSection]
  split
  · split <;> rfl
  · rfl

@[simp]
theorem copied_imageSize : (me.copied memory msg).imageSize = me.imageSize := by
  rw [SwImage.copied, SwImage.endSection]
  split
  · split <;> rfl
  · rfl

@[simp]
theorem copied_status : (me.copied memory msg).status = me.status := by
  rw [SwImage.copied, SwImage.endSection]
  split
  · split <;> rfl
  · rfl

@[simp]
theorem copied_timeout : (me.copied memory msg).timeout = me.timeout := by
  rw [SwImage.copied, SwImage.endSection]
  split
  · split <;> rfl
  · rfl

@[simp]
theorem copied_toOmciMeSwImage :
    (me.copied memory msg).toOmciMeSwImage = me.toOmciMeSwImage := by
  rw [SwImage.copied, SwImage.endSection]
  split
  · split <;> rfl
  · rfl

@[simp]
theorem copied_sectionMissed :
    (me.copied memory msg).sectionMissed = me.sectionMissed := by
  rw [SwImage.copied, SwImage.endSection]
  split
  · split <;> rfl
  · rfl

theorem taking_eq_true : me.taking = true ↔
    me.isCommitted = false ∧ me.isActive = false ∧ ∃ memory, me.data = some memory := by
  simp [SwImage.taking, Option.isSome_iff_exists, and_assoc]

theorem dlSection_ended (me : SwImage) (msg rsp : OmciMsg) :
    SectionEnded me msg (dlSection me msg rsp) := by
  have herror : mrCmdError ≠ mrCmdSuccess := by decide
  rw [dlSection]
  dsimp only
  split
  · rename_i huse
    apply SectionEnded.refused
    · rw [SwImage.taking, ← Bool.not_or, huse]
      rfl
    · rw [OmciMsg.result_withResult]
      decide
  · rename_i huse
    rw [Bool.not_eq_true, Bool.or_eq_false_iff] at huse
    split
    · rename_i hdata
      apply SectionEnded.refused
      · simp [SwImage.taking, hdata]
      · rwa [OmciMsg.result_withResult]
    · rename_i memory hdata
      have htaking : me.taking = true := taking_eq_true.mpr ⟨huse.1, huse.2, memory, hdata⟩
      split
      · rename_i hexpects
        apply SectionEnded.dropped _ htaking
        · simpa using hexpects
        · rwa [OmciMsg.result_write _ _ (by decide), OmciMsg.result_withResult]
      · rename_i hexpects
        rw [Bool.not_eq_true, Bool.not_eq_false'] at hexpects
        have hnumber := miss_currSectReceived hexpects
        simp only [miss_imageSize, restart_imageSize, miss_totalSectReceived,
          restart_totalSectReceived, hnumber]
        split
        · rename_i hcopy
          exact .aborted memory htaking hdata hexpects hcopy
        · rename_i memory' hcopy
          apply SectionEnded.copied memory memory' _ htaking hdata hexpects hcopy
          rw [OmciMsg.result_withResult]

end Section

/-! ## The ways END_DL can end -/

/-- `end_dl_action_handle` for each status. -/
inductive EndDlEnded (me : SwImage) (msg : OmciMsg) :
    Option (SwImage × OmciError × OmciMsg × Option Memory) → Prop
  | busy (rsp : OmciMsg) (hstatus : me.status = .writing) (hresult : rsp.result ≠ mrCmdSuccess) :
      EndDlEnded me msg (some (me, .success, rsp, none))
  | complete (rsp : OmciMsg) (hstatus : me.status = .writingComplete) :
      EndDlEnded me msg (some ({ me with status := .none }, .success, rsp, none))
  | idle (rsp : OmciMsg) (hstatus : me.status = .none) (hresult : rsp.result ≠ mrCmdSuccess) :
      EndDlEnded me msg (some (me, .success, rsp, none))
  | inUse (rsp : OmciMsg) (hstatus : me.status = .downloading)
      (hresult : rsp.result ≠ mrCmdSuccess) :
      EndDlEnded me msg (some ({ me with timeout := false }, .success, rsp, none))
  | aborted (hstatus : me.status = .downloading) (hcrc : me.crc = none) : EndDlEnded me msg none
  | failed (rsp : OmciMsg) (err : OmciError) (hstatus : me.status = .downloading)
      (hresult : rsp.result ≠ mrCmdSuccess) :
      EndDlEnded me msg
        (some ({ me with timeout := false, data := none, status := .none }, err, rsp, none))
  | stored (rsp : OmciMsg) (hstatus : me.status = .downloading)
      (hcrc : me.crc = some (msg.field32 0)) (hsize : me.imageSize = msg.field32 4)
      (hresult : rsp.result ≠ mrCmdSuccess) :
      EndDlEnded me msg
        (some ({ me with timeout := false, data := none, status := .writing }, .success, rsp,
          some me.image))

theorem endDl_ended (env : SwImageEnv) (inst : InstanceId) (me : SwImage) (msg rsp : OmciMsg) :
    EndDlEnded me msg (endDl env inst me msg rsp) := by
  have herror : (rsp.withResult mrCmdError).result ≠ mrCmdSuccess := by
    rw [OmciMsg.result_withResult]
    decide
  rw [endDl]
  dsimp only
  split
  · rename_i hstatus
    apply EndDlEnded.busy _ hstatus
    rw [OmciMsg.result_withResult]
    decide
  · rename_i hstatus
    exact .complete _ hstatus
  · rename_i hstatus
    exact .idle _ hstatus herror
  · rename_i hstatus
    split
    · apply EndDlEnded.inUse _ hstatus
      rw [OmciMsg.result_withResult]
      decide
    · split
      · rename_i hcrc
        exact .aborted hstatus hcrc
      · rename_i crc hcrc
        split
        · exact .failed _ _ hstatus herror
        · rename_i hsame
          split
          · exact .failed _ _ hstatus herror
          · rename_i hsize
            split
            · exact .failed _ _ hstatus herror
            · split
              · exact .failed _ _ hstatus herror
              · rw [not_not] at hsame hsize
                subst hsame
                apply EndDlEnded.stored _ hstatus hcrc hsize
                rw [OmciMsg.result_withResult]
                decide

/-! ## The memory of a download -/

def SwImage.accepts (me : SwImage) (env : SwImageEnv) (instanceId : InstanceId) : Bool :=
  !me.isCommitted && !me.isActive && env.alloc.isSome && env.driver instanceId == .success &&
    env.seqNumInc == .success && env.timeoutEventAdd == .success

/-- The memory has the size of the image, and a download has memory. -/
structure SwImage.Allocated (me : SwImage) : Prop where
  size : ∀ memory, me.data = some memory → memory.size = me.imageSize.toNat
  downloading : me.status = .downloading → me.data.isSome = true

def SwImage.sectionWraps (me : SwImage) (msg : OmciMsg) : Bool :=
  me.taking && (me.restart msg).expects msg &&
    sectWraps me.imageSize (sectOffset (me.totalSectReceived + sectNum msg))

/-- The part of the image that a section is copied to, if it is copied. -/
def SwImage.sectionTarget (me : SwImage) (msg : OmciMsg) : Option (Nat × Nat) :=
  if me.taking && (me.restart msg).expects msg then
    sectRange me.imageSize (sectOffset (me.totalSectReceived + sectNum msg))
  else none

/-- No START_DL is refused during a download, and no section wraps around. -/
def BufferGuard (images : SwImages) : SwImageEvent → Prop
  | .startDl inst env _ => ∀ me, images.me inst = some me → me.status = .downloading →
      me.accepts env inst = true
  | .dlSection inst msg => ∀ me, images.me inst = some me → me.sectionWraps msg = false
  | _ => True

instance (images : SwImages) : DecidablePred (BufferGuard images)
  | .startDl inst env _ => inferInstanceAs (Decidable (∀ me ∈ images.me inst,
      me.status = .downloading → me.accepts env inst = true))
  | .dlSection inst msg =>
      inferInstanceAs (Decidable (∀ me ∈ images.me inst, me.sectionWraps msg = false))
  | .endDl .. | .activateImage .. | .commitImage .. | .timeout _ | .endDlCb .. | .commitCb _ =>
      isTrue trivial

/-- The entity of a download that has begun. -/
def SwImage.started (me : SwImage) (msg : OmciMsg) (bytes : Buffer) : SwImage :=
  { me.begin msg with
    isValid := false
    version := List.replicate 14 0
    data := some ⟨(msg.field32 1).toNat, bytes⟩
    status := .downloading
    timeout := true }

/-- A START_DL that is refused leaves no memory, no timer and the old status. -/
theorem startDl_cases (env : SwImageEnv) (inst : InstanceId) (me : SwImage) (msg rsp : OmciMsg) :
    (∃ bytes, me.accepts env inst = true ∧ (startDl env inst me msg rsp).1 = me.started msg bytes) ∨
      (me.accepts env inst = false ∧ (startDl env inst me msg rsp).1.data = none ∧
        (startDl env inst me msg rsp).1.status = me.status ∧
        (startDl env inst me msg rsp).1.timeout = false) := by
  rw [startDl]
  dsimp only
  split
  · rename_i huse
    right
    refine ⟨?_, rfl, rfl, rfl⟩
    rw [SwImage.accepts, ← Bool.not_or, huse]
    rfl
  · rename_i huse
    rw [Bool.not_eq_true, Bool.or_eq_false_iff] at huse
    split
    · rename_i halloc
      right
      exact ⟨by simp [SwImage.accepts, halloc], rfl, rfl, rfl⟩
    · rename_i bytes halloc
      split
      · rename_i hdriver
        right
        exact ⟨by simp_all [SwImage.accepts], rfl, rfl, rfl⟩
      · split
        · right
          exact ⟨by simp_all [SwImage.accepts], rfl, rfl, rfl⟩
        · split
          · right
            exact ⟨by simp_all [SwImage.accepts], rfl, rfl, rfl⟩
          · left
            exact ⟨bytes, by simp_all [SwImage.accepts], rfl⟩

section Allocated

variable {inst : InstanceId} {event : SwImageEvent} {me me' : SwImage}

theorem allocated_meInit (attrs : OmciMeSwImage) : (SwImage.meInit attrs).Allocated :=
  ⟨nofun, nofun⟩

/-- No event but a refused START_DL takes the memory from a download. -/
theorem SwImage.Allocated.moved (h : me.Allocated) (hmoved : SwImageMoved inst event me me')
    (hstart : ∀ env msg, event = .startDl inst env msg → me.status = .downloading →
      me.accepts env inst = true) : me'.Allocated := by
  cases hmoved with
  | same => exact h
  | startDl env msg hevent =>
      rcases startDl_cases env inst me msg (rspCreate msg) with
        ⟨bytes, _, hstarted⟩ | ⟨hrefused, hdata, hstatus, _⟩
      · rw [hstarted]
        constructor
        · intro memory hmemory
          obtain rfl := Option.some.inj hmemory
          rfl
        · intro _
          rfl
      · constructor
        · intro other hother
          cases hdata.symm.trans hother
        · intro hdownloading
          have haccepts := hstart env msg hevent (hstatus.symm.trans hdownloading)
          rw [hrefused] at haccepts
          cases haccepts
  | dlSection msg rsp after hevent hresult =>
      have hafter : after.Allocated := by
        have hended := dlSection_ended me msg (rspCreate msg)
        rw [hresult] at hended
        cases hended with
        | refused => exact h
        | dropped => exact ⟨by simpa using h.size, by simpa using h.downloading⟩
        | copied memory memory' _ _ hdata _ hcopy =>
            constructor
            · intro other hother
              rw [copied_data] at hother
              obtain rfl := Option.some.inj hother
              rw [size_copySection hcopy, h.size memory hdata]
              simp
            · simp
      rw [SwImage.noteSection]
      split <;> exact ⟨hafter.size, hafter.downloading⟩
  | endDl env msg rsp after err data hevent hresult =>
      have hended := endDl_ended env inst me msg (rspCreate msg)
      rw [hresult] at hended
      cases hended with
      | busy | idle => exact h
      | complete => exact ⟨h.size, nofun⟩
      | inUse => exact ⟨h.size, h.downloading⟩
      | failed | stored => exact ⟨nofun, nofun⟩
  | active | committed => exact ⟨h.size, h.downloading⟩
  | timeout => exact ⟨nofun, nofun⟩
  | endDlCb write version valid =>
      rw [SwImage.endWrite]
      split
      · exact ⟨h.size, nofun⟩
      · exact ⟨h.size, h.downloading⟩

/-- What a download relies on: its memory is there, and sections and the CRC stay within
it. -/
structure BufferSafe (images : SwImages) : Prop where
  allocated : ∀ inst me, images.me inst = some me → me.status = .downloading →
    ∃ memory, me.data = some memory ∧ memory.size = me.imageSize.toNat
  /-- A section is copied within the image and within its memory. -/
  target : ∀ inst me msg start size, images.me inst = some me →
    BufferGuard images (.dlSection inst msg) → me.sectionTarget msg = some (start, size) →
    start + size ≤ me.imageSize.toNat ∧
      ∃ memory, me.data = some memory ∧ memory.size = me.imageSize.toNat
  /-- No section and no CRC is a bad access. -/
  sections : ∀ inst me msg, images.me inst = some me →
    BufferGuard images (.dlSection inst msg) →
    (swImageStep images (.dlSection inst msg)).isSome = true
  crc : ∀ inst me env msg, images.me inst = some me →
    (swImageStep images (.endDl inst env msg)).isSome = true

def SwImages.Allocated (images : SwImages) : Prop :=
  ∀ inst me, images.me inst = some me → me.Allocated

theorem bufferSafe_of_allocated {images : SwImages} (h : images.Allocated) : BufferSafe images := by
  constructor
  · intro inst me hme hdownloading
    obtain ⟨memory, hdata⟩ := Option.isSome_iff_exists.mp ((h inst me hme).downloading hdownloading)
    exact ⟨memory, hdata, (h inst me hme).size memory hdata⟩
  · intro inst me msg start size hme hguard htarget
    have hwraps := hguard me hme
    rw [SwImage.sectionTarget] at htarget
    split at htarget
    · rename_i hcopied
      rw [SwImage.sectionWraps, hcopied, Bool.true_and] at hwraps
      rw [Bool.and_eq_true] at hcopied
      obtain ⟨_, _, memory, hdata⟩ := taking_eq_true.mp hcopied.1
      exact ⟨sectRange_le hwraps htarget, memory, hdata, (h inst me hme).size memory hdata⟩
    · cases htarget
  · intro inst me msg hme hguard
    have hwraps := hguard me hme
    have hended := dlSection_ended me msg (rspCreate msg)
    rw [swImageStep, hme, Option.bind_some, Option.isSome_map, dlSectionActionHandle]
    cases hresult : dlSection me msg (rspCreate msg) with
    | some result => rfl
    | none =>
        rw [hresult] at hended
        cases hended with
        | aborted memory htaking hdata hexpects hcopy =>
            rw [SwImage.sectionWraps, htaking, hexpects, Bool.true_and, Bool.true_and] at hwraps
            have hsome := copySection_isSome msg ((h inst me hme).size memory hdata) hwraps
            rw [hcopy] at hsome
            cases hsome
  · intro inst me env msg hme
    have hended := endDl_ended env inst me msg (rspCreate msg)
    rw [swImageStep, hme, Option.bind_some, Option.isSome_map, endDlActionHandle]
    cases hresult : endDl env inst me msg (rspCreate msg) with
    | some result =>
        obtain ⟨after, err, rsp, data⟩ := result
        cases data <;> rfl
    | none =>
        rw [hresult] at hended
        cases hended with
        | aborted hstatus hcrc =>
            obtain ⟨memory, hdata⟩ := Option.isSome_iff_exists.mp
              ((h inst me hme).downloading hstatus)
            have hsize := (h inst me hme).size memory hdata
            rw [SwImage.crc, SwImage.image, hdata, Option.getD_some,
              if_pos hsize.ge] at hcrc
            cases hcrc

/-- In every run in which no START_DL is refused during a download and no section wraps
around, downloads have their memory, and every access stays within it. -/
theorem swImage_bufferSafe (attrs : InstanceId → Option OmciMeSwImage) {images : SwImages}
    (hreach : ReachOn swImageStep BufferGuard (swImagesInit attrs) images) : BufferSafe images := by
  have hstart : (swImagesInit attrs).Allocated := by
    intro inst me hme
    obtain ⟨_, _, rfl⟩ := Option.map_eq_some_iff.mp hme
    exact allocated_meInit _
  apply bufferSafe_of_allocated
  apply hreach.invariant hstart
  intro before event after hinv hguard hstep inst me' hme'
  obtain ⟨me, hme, hmoved⟩ := swImageStep_moved hstep inst me' hme'
  apply (hinv inst me hme).moved hmoved
  intro env msg hevent hdownloading
  subst hevent
  exact hguard me hme hdownloading

end Allocated

/-! ## Downloads to the second image -/

/-- Two images, of which the first is in use. -/
def sampleImages : InstanceId → Option OmciMeSwImage := fun inst =>
  if inst = 0 then some ⟨List.replicate 14 0, true, true, true⟩
  else if inst = 1 then some ⟨List.replicate 14 0, false, false, true⟩
  else none

/-- A request for the second image. -/
def sampleRequest (type : Byte) (octets : List Byte) : OmciMsg :=
  ({ OmciMsg.zero with
    header := { tci := 1, type := type, devId := omciFormatBaseline, classId := 7, instanceId := 1 } } :
      OmciMsg).write 0 octets

/-- The system answers every request. -/
def sampleEnv : SwImageEnv where
  alloc := some fun _ => 0
  api := .success
  seqNumInc := .success
  timeoutEventAdd := .success
  file := true

def sampleStartDl (env : SwImageEnv) : SwImageEvent :=
  .startDl 1 env (sampleRequest 0x53 [0, 0, 0, 0, 10])

/-- A download of 40 bytes: the second of two sections is cut off at the end of the image. -/
theorem swImage_bufferSafe_started :
    ∃ images, (images.me 1).any (fun me => decide (me.status = .downloading ∧
        me.data.map (fun memory => slice memory.bytes 30 11) =
          some (0xff :: List.replicate 9 0xee ++ [0]))) = true ∧ BufferSafe images := by
  have hrun : (execOn swImageStep BufferGuard (swImagesInit sampleImages)
      [.startDl 1 sampleEnv (sampleRequest 0x53 [1, 0, 0, 0, 40]),
        .dlSection 1 (sampleRequest 0x14 (0 :: List.replicate 31 0xff)),
        .dlSection 1 (sampleRequest 0x54 (1 :: List.replicate 31 0xee))]).any
      (fun images => decide ((images.me 1).any (fun me => decide (me.status = .downloading ∧
        me.data.map (fun memory => slice memory.bytes 30 11) =
          some (0xff :: List.replicate 9 0xee ++ [0]))) = true)) = true := by
    decide
  obtain ⟨images, hreach, hreceived⟩ := exists_reachOn_of_execOn hrun
  exact ⟨images, hreceived, swImage_bufferSafe sampleImages hreach⟩

/-- If there is no memory for the image that a second START_DL announces, the entity is
downloading without memory. -/
theorem swImage_not_bufferSafe :
    ∃ images, Reach swImageStep (swImagesInit sampleImages) images ∧ ¬ BufferSafe images := by
  have hrun : (execOn swImageStep (fun _ _ => True) (swImagesInit sampleImages)
      [sampleStartDl sampleEnv, sampleStartDl { sampleEnv with alloc := none }]).any
      (fun images => decide ((images.me 1).any (fun me =>
        decide (me.status = .downloading) && me.data.isNone) = true)) = true := by
    decide
  obtain ⟨images, hreach, hstatus⟩ := exists_reachOn_of_execOn hrun
  refine ⟨images, hreach, fun hsafe => ?_⟩
  cases hme : images.me 1 with
  | none =>
      rw [hme] at hstatus
      cases hstatus
  | some me =>
      rw [hme, Option.any_some, Bool.and_eq_true, decide_eq_true_eq] at hstatus
      obtain ⟨memory, hdata, _⟩ := hsafe.allocated 1 me hme hstatus.1
      rw [hdata] at hstatus
      cases hstatus.2

end FalconGpon.Omci
