/-
# PLOAM messages

The 12-byte message of `falcon_ploam.h` and the three words through which the GTC
hardware takes and gives it.
-/

import FalconGpon.Lib.Literals
import Mathlib.Data.BitVec

namespace FalconGpon.Ploam

/-- `u8`. -/
abbrev U8 := BitVec 8

/-- `u32`. -/
abbrev U32 := BitVec 32

/-- `struct gpon_ploam_msg`. -/
structure PloamMsg where
  onuId : U8
  msgId : U8
  seqNum : U8
  payload : Vector U8 9
deriving DecidableEq

/-- The three data words of a PLOAM register block. -/
structure PloamWords where
  w0 : U32
  w1 : U32
  w2 : U32
deriving DecidableEq

/-! Downstream message ids, `PLOAM_DS_*`. -/

def dsUpstreamOverhead : U8 := 0x01
def dsAssignOnuId : U8 := 0x03
def dsRangingTime : U8 := 0x04
def dsDeactivateOnuId : U8 := 0x05
def dsDisableSerialNum : U8 := 0x06
def dsRequestPassword : U8 := 0x09

/-! Upstream message ids, `PLOAM_US_*`. -/

def usSerialNumberOnu : U8 := 0x01
def usPassword : U8 := 0x02
def usAcknowledge : U8 := 0x09

def broadcastOnuId : U8 := 0xFF

def word (b0 b1 b2 b3 : U8) : U32 :=
  (b0.setWidth 32 <<< 24) ||| (b1.setWidth 32 <<< 16) ||| (b2.setWidth 32 <<< 8) |||
    b3.setWidth 32

/-- Octet `index` of a word, counted from the top. -/
def octet (w : U32) (index : Nat) : U8 := ((w >>> (24 - 8 * index)) &&& 0xFF#32).setWidth 8

/-- The words `gtc_ploam_send` writes for a message. -/
def PloamMsg.words (msg : PloamMsg) : PloamWords where
  w0 := word msg.onuId msg.msgId msg.seqNum (msg.payload.get 0)
  w1 := word (msg.payload.get 1) (msg.payload.get 2) (msg.payload.get 3) (msg.payload.get 4)
  w2 := word (msg.payload.get 5) (msg.payload.get 6) (msg.payload.get 7) (msg.payload.get 8)

/-- The message `gtc_ploam_rd` makes of the words it reads. -/
def PloamWords.msg (words : PloamWords) : PloamMsg where
  onuId := octet words.w0 0
  msgId := octet words.w0 1
  seqNum := octet words.w0 2
  payload := #v[octet words.w0 3, octet words.w1 0, octet words.w1 1, octet words.w1 2,
    octet words.w1 3, octet words.w2 0, octet words.w2 1, octet words.w2 2, octet words.w2 3]

end FalconGpon.Ploam
