/-
# Software images

The action handlers of the Software Image entities in `omci_sw_image.c`, their download
timer and the callbacks of the flash writer. `SwImage` is one entity: its attributes and
its internal data. The 32-bit counters of the source are `BitVec 32`.

An access to memory that is not there ends the run: a handler then yields `none`. What
the allocator, the driver, the file system and the timers answer during a request is
`SwImageEnv`.

`SwImage.sections`, `SwImage.windows` and `SwImages.log` are history: no handler reads
them.
-/

import FalconGpon.Omci.Me

namespace FalconGpon.Omci

open FalconGpon.Lib

/-- `enum sw_image_status`. -/
inductive SwImageStatus
  | none
  | downloading
  | writing
  | writingComplete
deriving DecidableEq

/-- A block of allocated memory. -/
structure Memory where
  size : Nat
  bytes : Buffer

/-- `memcpy` into the block; `none` if it leaves the block. -/
def Memory.write (memory : Memory) (offset : Nat) (octets : List Byte) : Option Memory :=
  if offset + octets.length ≤ memory.size then
    some { memory with bytes := patch memory.bytes offset octets }
  else none

/-- `struct omci_me_sw_image`. -/
structure OmciMeSwImage where
  version : List Byte
  isCommitted : Bool
  isActive : Bool
  isValid : Bool

/-- A Software Image entity: its attributes and `struct internal_data`. -/
structure SwImage extends OmciMeSwImage where
  data : Option Memory
  windowSize : BitVec 32
  imageSize : BitVec 32
  currWindow : BitVec 32
  totalSectReceived : BitVec 32
  currSectReceived : BitVec 32
  status : SwImageStatus
  sectionMissed : BitVec 32
  /-- The timer with `timeout_id` is pending. -/
  timeout : Bool
  /-- The sections that were taken since the last START_DL, oldest first. -/
  sections : List OmciMsg
  /-- The windows acknowledged with success since then, oldest first. -/
  windows : List (List OmciMsg)

/-- What the system answers during one request. -/
structure SwImageEnv where
  /-- What newly allocated memory holds; `none` if there is no memory. -/
  alloc : Option Buffer
  /-- The call of the driver. -/
  api : OmciError
  /-- `mib_seq_num_inc`. -/
  seqNumInc : OmciError
  /-- `timeout_event_add`. -/
  timeoutEventAdd : OmciError
  /-- The image file can be opened and written. -/
  file : Bool

/-- An image that the flash writer is working on. -/
structure FlashWrite where
  /-- `sw_image_id`. -/
  instanceId : InstanceId
  data : Memory

/-- What has happened, as far as downloads are concerned. -/
inductive SwImageLog
  /-- START_DL was handled. -/
  | startDl (instanceId : InstanceId)
  /-- The image passed the checks of this END_DL and went to the flash writer. -/
  | stored (instanceId : InstanceId) (msg : OmciMsg) (data : Memory)
  /-- The flash writer called back. -/
  | written (instanceId : InstanceId) (data : Memory) (valid : Bool)
  /-- END_DL was answered. -/
  | endDl (instanceId : InstanceId) (rsp : OmciMsg)

/-- The Software Image entities and what they share. -/
structure SwImages where
  me : InstanceId → Option SwImage
  /-- `context->cant_reboot`. -/
  cantReboot : BitVec 32
  /-- Images whose `end_dl_cb` is still to come. -/
  writes : List FlashWrite
  /-- Images whose `commit_cb` is still to come. -/
  commits : List InstanceId
  /-- Newest entry first. -/
  log : List SwImageLog

/-- What an action handler leaves behind. -/
structure SwImageResult where
  images : SwImages
  error : OmciError
  rsp : OmciMsg

def SwImages.set (images : SwImages) (instanceId : InstanceId) (me : SwImage) : SwImages :=
  { images with me := Function.update images.me instanceId (some me) }

@[simp]
theorem SwImages.set_me (images : SwImages) (instanceId : InstanceId) (me : SwImage) :
    (images.set instanceId me).me = Function.update images.me instanceId (some me) := rfl

theorem SwImages.found_of_set {images : SwImages} {inst other : InstanceId} {me found : SwImage}
    (hfound : (images.set inst me).me other = some found) :
    other = inst ∧ me = found ∨ other ≠ inst ∧ images.me other = some found := by
  rw [SwImages.set_me] at hfound
  by_cases hinst : other = inst
  · rw [hinst, Function.update_self] at hfound
    exact .inl ⟨hinst, Option.some.inj hfound⟩
  · rw [Function.update_of_ne hinst] at hfound
    exact .inr ⟨hinst, hfound⟩

/-- `SW_IMAGE_SLOT`. -/
def swImageSlot (instanceId : InstanceId) : InstanceId := (instanceId &&& 0xff00) >>> 8

/-- `me->instance_id & 1`, the image as the driver knows it. -/
def swImageId (instanceId : InstanceId) : InstanceId := instanceId &&& 1

def SwImageEnv.driver (env : SwImageEnv) (instanceId : InstanceId) : OmciError :=
  if swImageSlot instanceId = 0 then env.api else .error

/-! ## CRC-32 -/

/-- `crc32_i363_table`. -/
def crc32I363Table : List (BitVec 32) :=
  [
    0x00000000, 0x04c11db7, 0x09823b6e, 0x0d4326d9, 0x130476dc, 0x17c56b6b,
    0x1a864db2, 0x1e475005, 0x2608edb8, 0x22c9f00f, 0x2f8ad6d6, 0x2b4bcb61,
    0x350c9b64, 0x31cd86d3, 0x3c8ea00a, 0x384fbdbd, 0x4c11db70, 0x48d0c6c7,
    0x4593e01e, 0x4152fda9, 0x5f15adac, 0x5bd4b01b, 0x569796c2, 0x52568b75,
    0x6a1936c8, 0x6ed82b7f, 0x639b0da6, 0x675a1011, 0x791d4014, 0x7ddc5da3,
    0x709f7b7a, 0x745e66cd, 0x9823b6e0, 0x9ce2ab57, 0x91a18d8e, 0x95609039,
    0x8b27c03c, 0x8fe6dd8b, 0x82a5fb52, 0x8664e6e5, 0xbe2b5b58, 0xbaea46ef,
    0xb7a96036, 0xb3687d81, 0xad2f2d84, 0xa9ee3033, 0xa4ad16ea, 0xa06c0b5d,
    0xd4326d90, 0xd0f37027, 0xddb056fe, 0xd9714b49, 0xc7361b4c, 0xc3f706fb,
    0xceb42022, 0xca753d95, 0xf23a8028, 0xf6fb9d9f, 0xfbb8bb46, 0xff79a6f1,
    0xe13ef6f4, 0xe5ffeb43, 0xe8bccd9a, 0xec7dd02d, 0x34867077, 0x30476dc0,
    0x3d044b19, 0x39c556ae, 0x278206ab, 0x23431b1c, 0x2e003dc5, 0x2ac12072,
    0x128e9dcf, 0x164f8078, 0x1b0ca6a1, 0x1fcdbb16, 0x018aeb13, 0x054bf6a4,
    0x0808d07d, 0x0cc9cdca, 0x7897ab07, 0x7c56b6b0, 0x71159069, 0x75d48dde,
    0x6b93dddb, 0x6f52c06c, 0x6211e6b5, 0x66d0fb02, 0x5e9f46bf, 0x5a5e5b08,
    0x571d7dd1, 0x53dc6066, 0x4d9b3063, 0x495a2dd4, 0x44190b0d, 0x40d816ba,
    0xaca5c697, 0xa864db20, 0xa527fdf9, 0xa1e6e04e, 0xbfa1b04b, 0xbb60adfc,
    0xb6238b25, 0xb2e29692, 0x8aad2b2f, 0x8e6c3698, 0x832f1041, 0x87ee0df6,
    0x99a95df3, 0x9d684044, 0x902b669d, 0x94ea7b2a, 0xe0b41de7, 0xe4750050,
    0xe9362689, 0xedf73b3e, 0xf3b06b3b, 0xf771768c, 0xfa325055, 0xfef34de2,
    0xc6bcf05f, 0xc27dede8, 0xcf3ecb31, 0xcbffd686, 0xd5b88683, 0xd1799b34,
    0xdc3abded, 0xd8fba05a, 0x690ce0ee, 0x6dcdfd59, 0x608edb80, 0x644fc637,
    0x7a089632, 0x7ec98b85, 0x738aad5c, 0x774bb0eb, 0x4f040d56, 0x4bc510e1,
    0x46863638, 0x42472b8f, 0x5c007b8a, 0x58c1663d, 0x558240e4, 0x51435d53,
    0x251d3b9e, 0x21dc2629, 0x2c9f00f0, 0x285e1d47, 0x36194d42, 0x32d850f5,
    0x3f9b762c, 0x3b5a6b9b, 0x0315d626, 0x07d4cb91, 0x0a97ed48, 0x0e56f0ff,
    0x1011a0fa, 0x14d0bd4d, 0x19939b94, 0x1d528623, 0xf12f560e, 0xf5ee4bb9,
    0xf8ad6d60, 0xfc6c70d7, 0xe22b20d2, 0xe6ea3d65, 0xeba91bbc, 0xef68060b,
    0xd727bbb6, 0xd3e6a601, 0xdea580d8, 0xda649d6f, 0xc423cd6a, 0xc0e2d0dd,
    0xcda1f604, 0xc960ebb3, 0xbd3e8d7e, 0xb9ff90c9, 0xb4bcb610, 0xb07daba7,
    0xae3afba2, 0xaafbe615, 0xa7b8c0cc, 0xa379dd7b, 0x9b3660c6, 0x9ff77d71,
    0x92b45ba8, 0x9675461f, 0x8832161a, 0x8cf30bad, 0x81b02d74, 0x857130c3,
    0x5d8a9099, 0x594b8d2e, 0x5408abf7, 0x50c9b640, 0x4e8ee645, 0x4a4ffbf2,
    0x470cdd2b, 0x43cdc09c, 0x7b827d21, 0x7f436096, 0x7200464f, 0x76c15bf8,
    0x68860bfd, 0x6c47164a, 0x61043093, 0x65c52d24, 0x119b4be9, 0x155a565e,
    0x18197087, 0x1cd86d30, 0x029f3d35, 0x065e2082, 0x0b1d065b, 0x0fdc1bec,
    0x3793a651, 0x3352bbe6, 0x3e119d3f, 0x3ad08088, 0x2497d08d, 0x2056cd3a,
    0x2d15ebe3, 0x29d4f654, 0xc5a92679, 0xc1683bce, 0xcc2b1d17, 0xc8ea00a0,
    0xd6ad50a5, 0xd26c4d12, 0xdf2f6bcb, 0xdbee767c, 0xe3a1cbc1, 0xe760d676,
    0xea23f0af, 0xeee2ed18, 0xf0a5bd1d, 0xf464a0aa, 0xf9278673, 0xfde69bc4,
    0x89b8fd09, 0x8d79e0be, 0x803ac667, 0x84fbdbd0, 0x9abc8bd5, 0x9e7d9662,
    0x933eb0bb, 0x97ffad0c, 0xafb010b1, 0xab710d06, 0xa6322bdf, 0xa2f33668,
    0xbcb4666d, 0xb8757bda, 0xb5365d03, 0xb1f740b4]

/-- `crc32_i363_calc`. -/
def crc32I363Calc (data : List Byte) : BitVec 32 :=
  data.foldl
    (fun (crc : BitVec 32) byte =>
      (crc <<< 8) ^^^
        crc32I363Table.getD (((crc >>> 24) ^^^ byte.setWidth 32) &&& 0xff).toNat 0)
    0xffffffff#32 ^^^ 0xffffffff#32

/-- `me_internal_data->data`, as far as it can be read. -/
def SwImage.image (me : SwImage) : Memory := me.data.getD ⟨0, fun _ => 0⟩

/-- The CRC of the image; `none` if that is more than the memory holds. -/
def SwImage.crc (me : SwImage) : Option (BitVec 32) :=
  if me.imageSize.toNat ≤ me.image.size then
    some (crc32I363Calc (slice me.image.bytes 0 me.imageSize.toNat))
  else none

/-- The entity that `me_init` leaves, with the attributes the driver reports. -/
def SwImage.meInit (attrs : OmciMeSwImage) : SwImage :=
  { attrs with
    data := none
    windowSize := 0
    imageSize := 0
    currWindow := 0
    totalSectReceived := 0
    currSectReceived := 0
    status := .none
    sectionMissed := 0
    timeout := false
    sections := []
    windows := [] }

/-- The entities at the start. -/
def swImagesInit (attrs : InstanceId → Option OmciMeSwImage) : SwImages where
  me inst := (attrs inst).map SwImage.meInit
  cantReboot := 0
  writes := []
  commits := []
  log := []

/-! ## START_DL -/

/-- The counters of a download that begins. -/
def SwImage.begin (me : SwImage) (msg : OmciMsg) : SwImage :=
  { me with
    imageSize := msg.field32 1
    windowSize := (msg.octet 0).setWidth 32
    currWindow := 0
    currSectReceived := 0
    totalSectReceived := 0
    sectionMissed := 0 }

/-- What `start_dl_action_handle` makes of one entity. -/
def startDl (env : SwImageEnv) (instanceId : InstanceId) (me : SwImage) (msg rsp : OmciMsg) :
    SwImage × OmciError × OmciMsg :=
  let rsp := rsp.withResult mrCmdError
  let me := { me with timeout := false, data := none }
  if me.isCommitted || me.isActive then (me, .success, rsp.withResult mrParamError)
  else
    let me := me.begin msg
    let rsp := rsp.write 1 [msg.octet 0]
    match env.alloc with
    | none => (me, .success, rsp.cleared.withResult mrDeviceBusy)
    | some bytes =>
        if env.driver instanceId != .success then (me, env.driver instanceId, rsp)
        else
          let me := { me with isValid := false, version := List.replicate 14 0 }
          if env.seqNumInc != .success then (me, env.seqNumInc, rsp)
          else if env.timeoutEventAdd != .success then (me, env.timeoutEventAdd, rsp)
          else
            ({ me with
                data := some ⟨me.imageSize.toNat, bytes⟩
                status := .downloading
                timeout := true },
              .success, rsp.withResult mrCmdSuccess)

/-- `start_dl_action_handle`. -/
def startDlActionHandle (images : SwImages) (env : SwImageEnv) (instanceId : InstanceId)
    (me : SwImage) (msg rsp : OmciMsg) : SwImageResult :=
  let (me, err, rsp) := startDl env instanceId me msg rsp
  ⟨{ images.set instanceId { me with sections := [], windows := [] } with
      log := .startDl instanceId :: images.log }, err, rsp⟩

/-! ## DL_SECTION -/

/-- `msg->dl_section.sect_num`. -/
def sectNum (msg : OmciMsg) : BitVec 32 := (msg.octet 0).setWidth 32

/-- `msg->dl_section.data`. -/
def sectData (msg : OmciMsg) : List Byte := slice msg.octet 1 31

def sectOffset (number : BitVec 32) : BitVec 32 := number * 31

/-- The part of the image that a section is copied to, as offset and size. -/
def sectRange (imageSize offset : BitVec 32) : Option (Nat × Nat) :=
  let (offset, sectSize) :=
    if imageSize < offset + 31 then
      if imageSize < offset then (imageSize, 1) else (offset, imageSize - offset)
    else (offset, 31)
  if offset + sectSize ≤ imageSize then some (offset.toNat, sectSize.toNat) else none

/-- Copy a section into the image. -/
def Memory.copySection (memory : Memory) (imageSize offset : BitVec 32) (msg : OmciMsg) :
    Option Memory :=
  match sectRange imageSize offset with
  | some (offset, sectSize) => memory.write offset ((sectData msg).take sectSize)
  | none => some memory

def SwImage.restart (me : SwImage) (msg : OmciMsg) : SwImage :=
  if sectNum msg = 0 then { me with sectionMissed := 0 } else me

def SwImage.expects (me : SwImage) (msg : OmciMsg) : Bool :=
  me.currSectReceived == sectNum msg || me.currSectReceived + 1 == sectNum msg

/-- Count a section that was missed. -/
def SwImage.miss (me : SwImage) (msg : OmciMsg) : SwImage :=
  if me.currSectReceived ≠ sectNum msg then
    { me with
      currSectReceived := me.currSectReceived + 1
      sectionMissed := me.sectionMissed + 1 }
  else me

/-- The last section of a window completes it unless one was missed. -/
def SwImage.endSection (me : SwImage) (msg : OmciMsg) : SwImage :=
  if omciMsgTypeArGet msg = 1 then
    if me.sectionMissed = 0 then
      { me with
        currWindow := me.currWindow + 1
        totalSectReceived := me.totalSectReceived + me.currSectReceived
        currSectReceived := 0 }
    else { me with currSectReceived := 0 }
  else me

def SwImage.copied (me : SwImage) (memory : Memory) (msg : OmciMsg) : SwImage :=
  { me with data := some memory, currSectReceived := me.currSectReceived + 1 }.endSection msg

/-- What `dl_section_action_handle` makes of one entity. -/
def dlSection (me : SwImage) (msg rsp : OmciMsg) : Option (SwImage × OmciMsg) :=
  let rsp := rsp.withResult mrCmdError
  if me.isCommitted || me.isActive then
    some (me, (rsp.write 1 [msg.octet 0]).withResult mrParamError)
  else
    match me.data with
    | none => some (me, rsp)
    | some memory =>
        let me := me.restart msg
        let rsp := rsp.write 1 [msg.octet 0]
        if !me.expects msg then some ({ me with currSectReceived := 0 }, rsp)
        else
          let me := me.miss msg
          match memory.copySection me.imageSize
              (sectOffset (me.totalSectReceived + me.currSectReceived)) msg with
          | none => none
          | some memory =>
              let me := me.copied memory msg
              some (me, rsp.withResult (if me.sectionMissed ≠ 0 then mrCmdError else mrCmdSuccess))

def SwImage.taking (me : SwImage) : Bool := !me.isCommitted && !me.isActive && me.data.isSome

/-- Note a section that is taken, and the window that it completes. -/
def SwImage.noteSection (before after : SwImage) (msg rsp : OmciMsg) : SwImage :=
  if before.taking then
    let sections := before.sections ++ [msg]
    let count := (after.totalSectReceived - before.totalSectReceived).toNat
    { after with
      sections := sections
      windows :=
        if omciMsgTypeArGet msg = 1 ∧ rsp.result = mrCmdSuccess then
          before.windows ++ [sections.drop (sections.length - count)]
        else before.windows }
  else after

/-- `dl_section_action_handle`. -/
def dlSectionActionHandle (images : SwImages) (instanceId : InstanceId) (me : SwImage)
    (msg rsp : OmciMsg) : Option SwImageResult :=
  match dlSection me msg rsp with
  | none => none
  | some (after, rsp) =>
      some ⟨images.set instanceId (me.noteSection after msg rsp), .success, rsp⟩

/-! ## END_DL -/

/-- What `end_dl_action_handle` makes of one entity; the last component is the image that
goes to the flash writer. -/
def endDl (env : SwImageEnv) (instanceId : InstanceId) (me : SwImage) (msg rsp : OmciMsg) :
    Option (SwImage × OmciError × OmciMsg × Option Memory) :=
  let rsp := rsp.withResult mrCmdError
  match me.status with
  | .writing => some (me, .success, rsp.withResult mrDeviceBusy, none)
  | .writingComplete =>
      some ({ me with status := .none }, .success, rsp.withResult mrCmdSuccess, none)
  | .none => some (me, .success, rsp, none)
  | .downloading =>
      let me := { me with timeout := false }
      if me.isCommitted || me.isActive then
        some (me, .success, rsp.withResult mrParamError, none)
      else
        match me.crc with
        | none => none
        | some crc =>
            let failed := { me with data := none, status := SwImageStatus.none }
            if crc ≠ msg.field32 0 then some (failed, .success, rsp, none)
            else if me.imageSize ≠ msg.field32 4 then some (failed, .success, rsp, none)
            else if !env.file then some (failed, .success, rsp, none)
            else if env.driver instanceId != .success then
              some (failed, env.driver instanceId, rsp, none)
            else
              some ({ me with data := none, status := .writing }, .success,
                rsp.withResult mrDeviceBusy, some me.image)

/-- `end_dl_action_handle`. -/
def endDlActionHandle (images : SwImages) (env : SwImageEnv) (instanceId : InstanceId)
    (me : SwImage) (msg rsp : OmciMsg) : Option SwImageResult :=
  match endDl env instanceId me msg rsp with
  | none => none
  | some (me, err, rsp, none) =>
      some ⟨{ images.set instanceId me with log := .endDl instanceId rsp :: images.log },
        err, rsp⟩
  | some (me, err, rsp, some data) =>
      some ⟨{ images.set instanceId me with
        cantReboot := images.cantReboot + 1
        writes := ⟨swImageId instanceId, data⟩ :: images.writes
        log := .endDl instanceId rsp :: .stored instanceId msg data :: images.log }, err, rsp⟩

/-! ## ACTIVATE and COMMIT -/

/-- The answer if the image may not be activated or committed. -/
def SwImage.refused (me : SwImage) (rsp : OmciMsg) : Option OmciMsg :=
  if me.status ≠ .none ∧ me.status ≠ .writingComplete then some (rsp.withResult mrDeviceBusy)
  else if !me.isValid then some (rsp.withResult mrParamError)
  else none

/-- `activate_image_action_handle`. -/
def activateImageActionHandle (images : SwImages) (env : SwImageEnv) (instanceId : InstanceId)
    (me : SwImage) (rsp : OmciMsg) : SwImageResult :=
  let rsp := rsp.withResult mrCmdError
  match me.refused rsp with
  | some rsp => ⟨images, .action, rsp⟩
  | none =>
      let images := { images with cantReboot := images.cantReboot + 1 }
      if env.driver instanceId != .success then ⟨images, env.driver instanceId, rsp⟩
      else
        match images.me (instanceId ^^^ 1) with
        | none => ⟨images, .meNotFound, rsp⟩
        | some me2 =>
            let images := images.set instanceId { me with isActive := true }
            let images := images.set (instanceId ^^^ 1) { me2 with isActive := false }
            if env.seqNumInc != .success then ⟨images, env.seqNumInc, rsp⟩
            else ⟨images, .success, rsp.withResult mrCmdSuccess⟩

/-- `commit_image_action_handle`; if the driver fails, `cant_reboot` is as before. -/
def commitImageActionHandle (images : SwImages) (env : SwImageEnv) (instanceId : InstanceId)
    (me : SwImage) (rsp : OmciMsg) : SwImageResult :=
  let rsp := rsp.withResult mrCmdError
  match me.refused rsp with
  | some rsp => ⟨images, .action, rsp⟩
  | none =>
      if env.driver instanceId != .success then ⟨images, env.driver instanceId, rsp⟩
      else
        let images :=
          { images.set instanceId { me with isCommitted := true } with
            cantReboot := images.cantReboot + 1
            commits := swImageId instanceId :: images.commits }
        match images.me (instanceId ^^^ 1) with
        | none => ⟨images, .meNotFound, rsp⟩
        | some me2 =>
            let images := images.set (instanceId ^^^ 1) { me2 with isCommitted := false }
            if env.seqNumInc != .success then ⟨images, env.seqNumInc, rsp⟩
            else ⟨images, .success, rsp.withResult mrCmdSuccess⟩

/-! ## Timer and callbacks -/

/-- `data_clean_timeout_handle`. -/
def dataCleanTimeoutHandle (images : SwImages) (instanceId : InstanceId) (me : SwImage) :
    SwImages :=
  images.set instanceId { me with data := none, status := .none, timeout := false }

/-- What `end_dl_cb` makes of the entity. -/
def SwImage.endWrite (me : SwImage) (version : List Byte) (valid : Bool) : SwImage :=
  if valid then { me with isValid := true, version := version, status := .writingComplete }
  else { me with isValid := false, version := List.replicate 14 0 }

/-- `end_dl_cb`. Where there is no entity the source lowers the counter, takes the file of the image
away and returns; such a run stops here. -/
def endDlCb (images : SwImages) (instanceId : InstanceId) (data : Memory) (version : List Byte)
    (valid : Bool) : Option SwImages :=
  (images.me instanceId).map fun me =>
    { images.set instanceId (me.endWrite version valid) with
      cantReboot := images.cantReboot - 1
      log := .written instanceId data valid :: images.log }

/-- `commit_cb`. -/
def commitCb (images : SwImages) : SwImages :=
  { images with cantReboot := images.cantReboot - 1 }

/-! ## Runs -/

/-- A request for a Software Image entity, a timer that expires or a callback. -/
inductive SwImageEvent
  | startDl (instanceId : InstanceId) (env : SwImageEnv) (msg : OmciMsg)
  | dlSection (instanceId : InstanceId) (msg : OmciMsg)
  | endDl (instanceId : InstanceId) (env : SwImageEnv) (msg : OmciMsg)
  | activateImage (instanceId : InstanceId) (env : SwImageEnv) (msg : OmciMsg)
  | commitImage (instanceId : InstanceId) (env : SwImageEnv) (msg : OmciMsg)
  | timeout (instanceId : InstanceId)
  /-- The flash writer is done with one of its images. -/
  | endDlCb (write : Nat) (version : List Byte) (valid : Bool)
  /-- One of the images is committed, or not. -/
  | commitCb (commit : Nat)

/-- One event after the other; `none` if it cannot happen or ends in a bad access. -/
def swImageStep (images : SwImages) : SwImageEvent → Option SwImages
  | .startDl inst env msg =>
      (images.me inst).map fun me =>
        (startDlActionHandle images env inst me msg (rspCreate msg)).images
  | .dlSection inst msg =>
      (images.me inst).bind fun me =>
        (dlSectionActionHandle images inst me msg (rspCreate msg)).map SwImageResult.images
  | .endDl inst env msg =>
      (images.me inst).bind fun me =>
        (endDlActionHandle images env inst me msg (rspCreate msg)).map SwImageResult.images
  | .activateImage inst env msg =>
      (images.me inst).map fun me =>
        (activateImageActionHandle images env inst me (rspCreate msg)).images
  | .commitImage inst env msg =>
      (images.me inst).map fun me =>
        (commitImageActionHandle images env inst me (rspCreate msg)).images
  | .timeout inst =>
      match images.me inst with
      | some me => if me.timeout then some (dataCleanTimeoutHandle images inst me) else none
      | none => none
  | .endDlCb write version valid =>
      (images.writes[write]?).bind fun job =>
        endDlCb { images with writes := images.writes.eraseIdx write } job.instanceId job.data
          version valid
  | .commitCb commit =>
      (images.commits[commit]?).map fun _ =>
        commitCb { images with commits := images.commits.eraseIdx commit }

/-- What a step does, with what it has found. -/
inductive SwImageStepped (images : SwImages) : SwImageEvent → SwImages → Prop
  | startDl {inst : InstanceId} {me : SwImage} (env : SwImageEnv) (msg : OmciMsg)
      (hme : images.me inst = some me) :
      SwImageStepped images (.startDl inst env msg)
        (startDlActionHandle images env inst me msg (rspCreate msg)).images
  | dlSection {inst : InstanceId} {me after : SwImage} {rsp : OmciMsg} (msg : OmciMsg)
      (hme : images.me inst = some me)
      (hafter : dlSection me msg (rspCreate msg) = some (after, rsp)) :
      SwImageStepped images (.dlSection inst msg) (images.set inst (me.noteSection after msg rsp))
  | endDl {inst : InstanceId} {me after : SwImage} {err : OmciError} {rsp : OmciMsg}
      (env : SwImageEnv) (msg : OmciMsg) (hme : images.me inst = some me)
      (hend : endDl env inst me msg (rspCreate msg) = some (after, err, rsp, none)) :
      SwImageStepped images (.endDl inst env msg)
        { images.set inst after with log := .endDl inst rsp :: images.log }
  | stored {inst : InstanceId} {me after : SwImage} {err : OmciError} {rsp : OmciMsg}
      {data : Memory} (env : SwImageEnv) (msg : OmciMsg) (hme : images.me inst = some me)
      (hend : endDl env inst me msg (rspCreate msg) = some (after, err, rsp, some data)) :
      SwImageStepped images (.endDl inst env msg)
        { images.set inst after with
          cantReboot := images.cantReboot + 1
          writes := ⟨swImageId inst, data⟩ :: images.writes
          log := .endDl inst rsp :: .stored inst msg data :: images.log }
  | activateImage {inst : InstanceId} {me : SwImage} (env : SwImageEnv) (msg : OmciMsg)
      (hme : images.me inst = some me) :
      SwImageStepped images (.activateImage inst env msg)
        (activateImageActionHandle images env inst me (rspCreate msg)).images
  | commitImage {inst : InstanceId} {me : SwImage} (env : SwImageEnv) (msg : OmciMsg)
      (hme : images.me inst = some me) :
      SwImageStepped images (.commitImage inst env msg)
        (commitImageActionHandle images env inst me (rspCreate msg)).images
  | timeout {inst : InstanceId} {me : SwImage} (hme : images.me inst = some me)
      (htimeout : me.timeout = true) :
      SwImageStepped images (.timeout inst) (dataCleanTimeoutHandle images inst me)
  | endDlCb {write : Nat} {job : FlashWrite} {me : SwImage} (version : List Byte) (valid : Bool)
      (hjob : images.writes[write]? = some job) (hme : images.me job.instanceId = some me) :
      SwImageStepped images (.endDlCb write version valid)
        { images.set job.instanceId (me.endWrite version valid) with
          writes := images.writes.eraseIdx write
          cantReboot := images.cantReboot - 1
          log := .written job.instanceId job.data valid :: images.log }
  | commitCb {commit : Nat} {job : InstanceId} (hjob : images.commits[commit]? = some job) :
      SwImageStepped images (.commitCb commit)
        (commitCb { images with commits := images.commits.eraseIdx commit })

theorem swImageStep_cases {images images' : SwImages} {event : SwImageEvent}
    (hstep : swImageStep images event = some images') : SwImageStepped images event images' := by
  cases event with
  | startDl inst env msg =>
      obtain ⟨me, hme, rfl⟩ := Option.map_eq_some_iff.mp hstep
      exact .startDl env msg hme
  | dlSection inst msg =>
      obtain ⟨me, hme, hhandle⟩ := Option.bind_eq_some_iff.mp hstep
      obtain ⟨result, hresult, rfl⟩ := Option.map_eq_some_iff.mp hhandle
      rw [dlSectionActionHandle] at hresult
      split at hresult
      · cases hresult
      · rename_i after rsp hafter
        obtain rfl := Option.some.inj hresult
        exact .dlSection msg hme hafter
  | endDl inst env msg =>
      obtain ⟨me, hme, hhandle⟩ := Option.bind_eq_some_iff.mp hstep
      obtain ⟨result, hresult, rfl⟩ := Option.map_eq_some_iff.mp hhandle
      rw [endDlActionHandle] at hresult
      split at hresult
      · cases hresult
      · rename_i after err rsp hend
        obtain rfl := Option.some.inj hresult
        exact .endDl env msg hme hend
      · rename_i after err rsp data hend
        obtain rfl := Option.some.inj hresult
        exact .stored env msg hme hend
  | activateImage inst env msg =>
      obtain ⟨me, hme, rfl⟩ := Option.map_eq_some_iff.mp hstep
      exact .activateImage env msg hme
  | commitImage inst env msg =>
      obtain ⟨me, hme, rfl⟩ := Option.map_eq_some_iff.mp hstep
      exact .commitImage env msg hme
  | timeout inst =>
      rw [swImageStep] at hstep
      split at hstep
      · rename_i me hme
        split at hstep
        · rename_i htimeout
          obtain rfl := Option.some.inj hstep
          exact .timeout hme htimeout
        · cases hstep
      · cases hstep
  | endDlCb write version valid =>
      obtain ⟨job, hjob, hcb⟩ := Option.bind_eq_some_iff.mp hstep
      obtain ⟨me, hme, rfl⟩ := Option.map_eq_some_iff.mp hcb
      exact .endDlCb version valid hjob hme
  | commitCb commit =>
      obtain ⟨job, hjob, rfl⟩ := Option.map_eq_some_iff.mp hstep
      exact .commitCb hjob

end FalconGpon.Omci
