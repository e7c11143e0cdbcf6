/-
# OMCI messages

The 40-byte baseline message of `omci_msg.h`: an eight-byte header and 32 bytes
of contents. Requests and responses are the same union in the source, so both
are `OmciMsg` here. Multi-byte fields are in network order, which on the
big-endian target is the host order, so that `ntoh16` and `hton16` are the
identity.
-/

import FalconGpon.Lib.Buffer
import Mathlib.Data.BitVec

namespace FalconGpon.Omci

open FalconGpon.Lib

abbrev Byte := BitVec 8

/-- `enum omci_error`. -/
inductive OmciError
  | success
  | error
  | bounds
  | invalidPtr
  | memory
  | lock
  | invalidMeAction
  | invalidMeAttr
  | meNotSupported
  | action
  | meExists
  | meNotFound
  | invalidMeId
  | drv
  | invalidVal
  | msgFifoFull
deriving DecidableEq, Repr

/-- `struct omci_header`. -/
structure OmciHeader where
  /-- Transaction correlation identifier. -/
  tci : BitVec 16
  /-- Message type octet: Db, Ar and Ak bits over a five-bit type. -/
  type : Byte
  /-- Device identifier. -/
  devId : Byte
  /-- Managed entity class. -/
  classId : BitVec 16
  /-- Managed entity instance. -/
  instanceId : BitVec 16
deriving DecidableEq

/-- `union omci_msg`. -/
structure OmciMsg where
  header : OmciHeader
  contents : Vector Byte 32
deriving DecidableEq

/-- `OMCI_FORMAT_BASELINE`. -/
def omciFormatBaseline : Byte := 0x0a

/-! Results, `OMCI_MR_*`. -/

def mrCmdSuccess : Byte := 0
def mrCmdError : Byte := 1
def mrParamError : Byte := 3
def mrDeviceBusy : Byte := 6
def mrAttrFailed : Byte := 9

/-! Message types, `OMCI_MT_*`. -/

def mtCreate : Byte := 4
def mtDelete : Byte := 6
def mtSet : Byte := 8
def mtGet : Byte := 9
def mtGetAllAlarms : Byte := 11
def mtGetAllAlarmsNext : Byte := 12
def mtMibUpload : Byte := 13
def mtMibUploadNext : Byte := 14
def mtMibReset : Byte := 15
/-- `omci_msg_type_mt_get`. -/
def omciMsgTypeMtGet (msg : OmciMsg) : Byte := msg.header.type &&& ~~~0xe0#8

/-- `omci_msg_type_ak_get`. -/
def omciMsgTypeAkGet (msg : OmciMsg) : Byte := (msg.header.type &&& 0x20#8) >>> 5

/-- `omci_msg_type_ar_get`. -/
def omciMsgTypeArGet (msg : OmciMsg) : Byte := (msg.header.type &&& 0x40#8) >>> 6

def OmciMsg.withType (msg : OmciMsg) (type : Byte) : OmciMsg :=
  { msg with header := { msg.header with type := type } }

/-- `omci_msg_type_mt_set`. -/
def omciMsgTypeMtSet (msg : OmciMsg) (val : Byte) : OmciMsg :=
  msg.withType ((msg.header.type &&& 0xe0#8) ||| val)

/-- `omci_msg_type_ak_set`. -/
def omciMsgTypeAkSet (msg : OmciMsg) (val : Byte) : OmciMsg :=
  msg.withType ((msg.header.type &&& ~~~0x20#8) ||| (val <<< 5))

/-- `omci_msg_type_ar_set`. -/
def omciMsgTypeArSet (msg : OmciMsg) (val : Byte) : OmciMsg :=
  msg.withType ((msg.header.type &&& ~~~0x40#8) ||| (val <<< 6))

def OmciMsg.octet (msg : OmciMsg) (offset : Nat) : Byte := msg.contents[offset]?.getD 0

def OmciMsg.field16 (msg : OmciMsg) (offset : Nat) : BitVec 16 :=
  msg.octet offset ++ msg.octet (offset + 1)

def OmciMsg.field32 (msg : OmciMsg) (offset : Nat) : BitVec 32 :=
  msg.octet offset ++ msg.octet (offset + 1) ++ msg.octet (offset + 2) ++ msg.octet (offset + 3)

def OmciMsg.write (msg : OmciMsg) (offset : Nat) (octets : List Byte) : OmciMsg :=
  { msg with contents := Vector.ofFn fun i => patch msg.octet offset octets i }

def octets16 (field : BitVec 16) : List Byte :=
  [field.extractLsb' 8 8, field.extractLsb' 0 8]

def OmciMsg.cleared (msg : OmciMsg) : OmciMsg := { msg with contents := Vector.replicate 32 0 }

/-- A message of zero octets, as `memset` leaves it. -/
def OmciMsg.zero : OmciMsg where
  header := { tci := 0, type := 0, devId := 0, classId := 0, instanceId := 0 }
  contents := Vector.replicate 32 0

/-- `rsp_create`: the blank response to `msg`. -/
def rspCreate (msg : OmciMsg) : OmciMsg :=
  let rsp := OmciMsg.zero
  let rsp := { rsp with header := { rsp.header with tci := msg.header.tci } }
  let rsp := omciMsgTypeArSet rsp 0
  let rsp := omciMsgTypeAkSet rsp (omciMsgTypeArGet msg)
  let rsp := omciMsgTypeMtSet rsp (omciMsgTypeMtGet msg)
  { rsp with
    header := { rsp.header with
      devId := omciFormatBaseline
      classId := msg.header.classId
      instanceId := msg.header.instanceId } }

/-- A response names the transaction of a request: the same correlation
identifier, message type, managed entity class and managed entity instance. -/
structure SameTransaction (request response : OmciMsg) : Prop where
  tci : response.header.tci = request.header.tci
  messageType : omciMsgTypeMtGet response = omciMsgTypeMtGet request
  classId : response.header.classId = request.header.classId
  instanceId : response.header.instanceId = request.header.instanceId

instance (request response : OmciMsg) : Decidable (SameTransaction request response) :=
  decidable_of_iff
    (response.header.tci = request.header.tci ∧
      omciMsgTypeMtGet response = omciMsgTypeMtGet request ∧
      response.header.classId = request.header.classId ∧
      response.header.instanceId = request.header.instanceId)
    ⟨fun ⟨htci, htype, hclass, hinstance⟩ => ⟨htci, htype, hclass, hinstance⟩,
      fun h => ⟨h.tci, h.messageType, h.classId, h.instanceId⟩⟩

/-- The type octet that `rsp_create` computes from the request's. -/
private def rspType (type : Byte) : Byte :=
  (((0#8 &&& ~~~0x40#8 ||| 0#8 <<< 6) &&& ~~~0x20#8 |||
    ((type &&& 0x40#8) >>> 6) <<< 5) &&& 0xe0#8) ||| (type &&& ~~~0xe0#8)

private theorem rspType_mt : ∀ type : Byte, rspType type &&& ~~~0xe0#8 = type &&& ~~~0xe0#8 := by
  decide +kernel

theorem rspCreate_sameTransaction (msg : OmciMsg) : SameTransaction msg (rspCreate msg) where
  tci := rfl
  messageType := rspType_mt msg.header.type
  classId := rfl
  instanceId := rfl

private theorem akGet_cases :
    ∀ type : Byte, (type &&& 0x20#8) >>> 5 = 0#8 ∨ (type &&& 0x20#8) >>> 5 = 1#8 := by
  decide +kernel

theorem omciMsgTypeAkGet_eq_one {msg : OmciMsg} (h : omciMsgTypeAkGet msg ≠ 0) :
    omciMsgTypeAkGet msg = 1 :=
  (akGet_cases msg.header.type).resolve_left h

@[simp]
theorem OmciMsg.octet_write (msg : OmciMsg) (offset : Nat) (octets : List Byte) {i : Nat}
    (hi : i < 32) : (msg.write offset octets).octet i = patch msg.octet offset octets i := by
  simp [OmciMsg.write, OmciMsg.octet, hi]

theorem OmciMsg.slice_octet_write (msg : OmciMsg) (offset : Nat) (octets : List Byte)
    {start size : Nat} (h : start + size ≤ 32) :
    slice (msg.write offset octets).octet start size =
      slice (patch msg.octet offset octets) start size :=
  slice_eq_iff.mpr fun i hi => octet_write msg offset octets (by omega)

theorem octets16_append (field : BitVec 16) :
    field.extractLsb' 8 8 ++ field.extractLsb' 0 8 = field := by
  ext i hi
  simp only [BitVec.getElem_append, BitVec.getElem_extractLsb']
  grind

theorem OmciMsg.field16_write (msg : OmciMsg) {offset : Nat} (field : BitVec 16)
    (h : offset + 1 < 32) : (msg.write offset (octets16 field)).field16 offset = field := by
  rw [OmciMsg.field16, octet_write _ _ _ (by omega), octet_write _ _ _ h]
  simp only [patch, octets16, Nat.le_refl, Nat.le_add_right, if_true, Nat.sub_self,
    Nat.add_sub_cancel_left]
  exact octets16_append field

def OmciMsg.withResult (rsp : OmciMsg) (result : Byte) : OmciMsg := rsp.write 0 [result]

def OmciMsg.result (rsp : OmciMsg) : Byte := rsp.octet 0

@[simp]
theorem OmciMsg.result_withResult (rsp : OmciMsg) (result : Byte) :
    (rsp.withResult result).result = result := by
  simp [OmciMsg.withResult, OmciMsg.result, patch]

theorem OmciMsg.result_write (rsp : OmciMsg) {offset : Nat} (octets : List Byte)
    (hoffset : 0 < offset) : (rsp.write offset octets).result = rsp.result := by
  rw [OmciMsg.result, OmciMsg.octet_write _ _ _ (by decide), patch_of_lt hoffset]
  rfl

@[simp]
theorem octet_rspCreate (msg : OmciMsg) (i : Nat) : (rspCreate msg).octet i = 0 := by
  show ((Vector.replicate 32 (0 : Byte))[i]?).getD 0 = 0
  by_cases hi : i < 32 <;> simp [hi]

theorem SameTransaction.withContents {request response : OmciMsg}
    (h : SameTransaction request response) (contents : Vector Byte 32) :
    SameTransaction request { response with contents := contents } :=
  ⟨h.tci, h.messageType, h.classId, h.instanceId⟩

end FalconGpon.Omci
