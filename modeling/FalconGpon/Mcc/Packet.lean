/-
# Received packets

The packet layer of the multicast core receives a frame from the exception interface, finds
the IP header behind the exception header, checks it, goes through the extension headers of
IPv6 and classifies the IGMP or MLD message behind them. The functions are traced: every read
of the packet buffer is an event. Fields are read in the byte order of the target, which is
big-endian.
-/

import FalconGpon.Lib.Traced
import FalconGpon.Mcc.Record

namespace FalconGpon.Mcc

open FalconGpon.Lib

/-- `MCC_PKT_MAX_SIZE_BYTE`. -/
def mccPktMaxSizeByte : Nat := 2048

/-- The packet buffer after a receive: the first `len` bytes are the frame, what lies around
it is part of the memory all the same. -/
structure RxBuffer where
  data : Int → BitVec 8
  len : Nat
  len_le : len ≤ mccPktMaxSizeByte

/-- A read of `width` bytes at an offset from the start of the buffer. -/
structure Access where
  offset : Int
  width : Nat
deriving DecidableEq

namespace RxBuffer

/-- The bytes from `p` on lie inside the received length. -/
def Holds (buf : RxBuffer) (p : Int) (width : Nat) : Prop :=
  0 ≤ p ∧ p + width ≤ buf.len

instance (buf : RxBuffer) (p : Int) (width : Nat) : Decidable (buf.Holds p width) :=
  inferInstanceAs (Decidable (_ ∧ _))

def Inside (buf : RxBuffer) (a : Access) : Prop :=
  buf.Holds a.offset a.width

instance (buf : RxBuffer) : DecidablePred buf.Inside :=
  fun a => inferInstanceAs (Decidable (buf.Holds a.offset a.width))

def field16 (buf : RxBuffer) (p : Int) : BitVec 16 :=
  buf.data p ++ buf.data (p + 1)

def field32 (buf : RxBuffer) (p : Int) : BitVec 32 :=
  buf.field16 p ++ buf.field16 (p + 2)

/-- An address of `width` bytes in a cleared `union mcc_ip_addr`. -/
def addrAt (buf : RxBuffer) (p : Int) (width : Nat) : MccIpAddr :=
  (List.range 16).foldl
    (fun addr i => (addr <<< 8) ||| (if i < width then buf.data (p + i) else 0).setWidth 128) 0

def read8 (buf : RxBuffer) (p : Int) : Traced Access (BitVec 8) :=
  .emit ⟨p, 1⟩ (buf.data p)

def read16 (buf : RxBuffer) (p : Int) : Traced Access (BitVec 16) :=
  .emit ⟨p, 2⟩ (buf.field16 p)

def readAddr (buf : RxBuffer) (p : Int) (width : Nat) : Traced Access MccIpAddr :=
  .emit ⟨p, width⟩ (buf.addrAt p width)

end RxBuffer

/-! ## The lower layer -/

/-- `struct mcc_pkt_ll_info`. -/
structure MccPktLlInfo where
  cvid : BitVec 16
  svid : BitVec 16
  portIdx : BitVec 8
  dirUs : Bool
  offsetIph : BitVec 8
deriving DecidableEq

/-- `MCC_VLAN_UNTAGGED`. -/
def mccVlanUntagged : BitVec 16 := 4096

/-- `MCC_EXC_HDR_SIZE`. -/
def mccExcHdrSize : Nat := 8

/-- `MCC_EXC_SRC_LAN_INGRESS`. -/
def mccExcSrcLanIngress : BitVec 8 := 3

/-- What `mcc_dev_pkt_receive` presets. -/
def mccLlInfoDefault : MccPktLlInfo where
  cvid := mccVlanUntagged
  svid := mccVlanUntagged
  portIdx := 0
  dirUs := true
  offsetIph := 22

def offsetIphGet (ethtypeOffset : BitVec 8) : BitVec 8 :=
  if ethtypeOffset = 0 then mccLlInfoDefault.offsetIph else 8 + ethtypeOffset + 2

def outerVidGet (msb lsb : BitVec 8) : BitVec 16 :=
  let oVid := ((msb &&& 0x0F).setWidth 16 <<< 8) ||| lsb.setWidth 16
  if oVid = 0 then mccVlanUntagged else oVid

/-- `mcc_dev_pkt_receive`. A frame that is shorter than the exception header keeps the preset
values. -/
def mccDevPktReceive (buf : RxBuffer) : Traced Access MccPktLlInfo := do
  if buf.len = 0 then
    .fail
  else if buf.len < mccExcHdrSize then
    pure mccLlInfoDefault
  else
    let ingressInfo ← buf.read8 1
    let ctrl ← buf.read8 3
    let oVlanMsb ← buf.read8 4
    let oVlanLsb ← buf.read8 5
    let ethtypeOffset ← buf.read8 7
    pure
      { cvid := outerVidGet oVlanMsb oVlanLsb
        svid := mccVlanUntagged
        portIdx := (ingressInfo >>> 6) &&& 3
        dirUs := (ctrl >>> 6) &&& 3 = mccExcSrcLanIngress
        offsetIph := offsetIphGet ethtypeOffset }

/-- `mcc_pkt_dump`. -/
def mccPktDump (buf : RxBuffer) : Traced Access Unit :=
  .emit ⟨0, buf.len⟩ ()

/-! ## IP headers -/

/-- `struct iphdr`. -/
structure IpHdr where
  version : BitVec 4
  ihl : BitVec 4
  totLen : BitVec 16
  protocol : BitVec 8
  saddr : MccIpAddr
deriving DecidableEq

/-- `sizeof(struct iphdr)`. -/
def ipHdrSize : Nat := 20

/-- The IPv4 header at `p`. -/
def RxBuffer.ipHdrAt (buf : RxBuffer) (p : Int) : IpHdr where
  version := (buf.data p).extractLsb' 4 4
  ihl := (buf.data p).extractLsb' 0 4
  totLen := buf.field16 (p + 2)
  protocol := buf.data (p + 9)
  saddr := buf.addrAt (p + 12) 4

def readIpHdr (buf : RxBuffer) (p : Int) : Traced Access IpHdr :=
  .emit ⟨p, ipHdrSize⟩ (buf.ipHdrAt p)

def IpHdr.len (hdr : IpHdr) : Nat :=
  hdr.ihl.toNat * 4

/-- `struct ip6_hdr`. -/
structure Ip6Hdr where
  plen : BitVec 16
  nxt : BitVec 8
  src : MccIpAddr
deriving DecidableEq

/-- `sizeof(struct ip6_hdr)`. -/
def ip6HdrSize : Nat := 40

/-- The IPv6 header at `p`. -/
def RxBuffer.ip6HdrAt (buf : RxBuffer) (p : Int) : Ip6Hdr where
  plen := buf.field16 (p + 4)
  nxt := buf.data (p + 6)
  src := buf.addrAt (p + 8) 16

def readIp6Hdr (buf : RxBuffer) (p : Int) : Traced Access Ip6Hdr :=
  .emit ⟨p, ip6HdrSize⟩ (buf.ip6HdrAt p)

/-- The summing loop of `mcc_pkt_ipv4_csum_get`. -/
def csumWords (buf : RxBuffer) : Nat → Int → BitVec 32 → Traced Access (BitVec 32)
  | 0, _, sum => pure sum
  | 1, p, sum => do
      let last ← buf.read8 p
      pure (sum + (last.setWidth 32 <<< 8))
  | bytes + 2, p, sum => do
      let word ← buf.read16 p
      csumWords buf bytes (p + 2) (sum + word.setWidth 32)

def csumFold (sum : BitVec 32) : BitVec 32 :=
  (sum &&& 0xFFFF#32) + (sum >>> 16)

/-- `mcc_pkt_ipv4_csum_get`. -/
def mccPktIpv4CsumGet (buf : RxBuffer) (p : Int) (len : Nat) : Traced Access (BitVec 16) := do
  let sum ← csumWords buf len p 0
  -- the loop ends after two turns at most, see `csumFold_csumFold_shift`
  pure (~~~ (csumFold (csumFold sum)).setWidth 16)

end FalconGpon.Mcc
