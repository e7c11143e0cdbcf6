/-
# Classifying and decoding packets

`mcc_pkt_info_update` finds the IGMP or MLD message of a received packet, the two protocol
contexts read its header and walk over its group records, and `mcc_rec_get` fetches one record
after the other. The handlers of the two contexts differ in sizes, offsets and type values
only, apart from the version.
-/

import FalconGpon.Mcc.Packet

namespace FalconGpon.Mcc

open FalconGpon.Lib

/-! ## The protocol contexts -/

/-- `igmp_protocol_context` and `mld_protocol_context`. -/
inductive MccProt
  | igmp
  | mld
deriving DecidableEq

namespace MccProt

/-- `sizeof(struct mcc_pkt_igmp_hdr)`, `sizeof(struct mcc_pkt_mld_hdr)`. -/
def hdrSize : MccProt → Nat
  | igmp => 12
  | mld => 28

def gaOffset : MccProt → Nat
  | igmp => 4
  | mld => 8

def addrLen : MccProt → Nat
  | igmp => 4
  | mld => 16

/-- `MCC_IGMP_TYPE_MEMBERSHIP_QUERY`, `MCC_MLD_TYPE_LISTENER_QUERY`. -/
def queryType : MccProt → BitVec 8
  | igmp => 0x11
  | mld => 130

/-- `MCC_IGMP_TYPE_V2_MEMBERSHIP_REPORT`, `MCC_MLD_TYPE_LISTENER_REPORT`. -/
def reportType : MccProt → BitVec 8
  | igmp => 0x16
  | mld => 131

/-- `MCC_IGMP_TYPE_V2_LEAVE_GROUP`, `MCC_MLD_TYPE_LISTENER_DONE`. -/
def leaveType : MccProt → BitVec 8
  | igmp => 0x17
  | mld => 132

/-- `MCC_IGMP_TYPE_V3_MEMBERSHIP_REPORT`, `MCC_MLD_TYPE_LISTENER_V2_REPORT`. -/
def recordsType : MccProt → BitVec 8
  | igmp => 0x22
  | mld => 143

def recSize (prot : MccProt) : Nat :=
  4 + prot.addrLen

end MccProt

/-- `MCC_IGMP_TYPE_V1_MEMBERSHIP_REPORT`. -/
def mccIgmpTypeV1MembershipReport : BitVec 8 := 0x12

/-- `enum mcc_pkt_type`. -/
inductive MccPktType
  | igmpQuery
  | igmpV1Report
  | igmpV2Report
  | igmpV2Leave
  | igmpV3Report
  | mldQuery
  | mldV1Report
  | mldV1Done
  | mldV2Report
deriving DecidableEq

/-- The conversion in `mcc_pkt_type_get`; it does not look at the protocol. -/
def pktTypeOf (type : BitVec 8) : Option MccPktType :=
  if type = MccProt.igmp.queryType then some .igmpQuery
  else if type = mccIgmpTypeV1MembershipReport then some .igmpV1Report
  else if type = MccProt.igmp.reportType then some .igmpV2Report
  else if type = MccProt.igmp.leaveType then some .igmpV2Leave
  else if type = MccProt.igmp.recordsType then some .igmpV3Report
  else if type = MccProt.mld.queryType then some .mldQuery
  else if type = MccProt.mld.reportType then some .mldV1Report
  else if type = MccProt.mld.leaveType then some .mldV1Done
  else if type = MccProt.mld.recordsType then some .mldV2Report
  else none

/-- `struct mcc_pkt_info`; `p` is the header of the protocol found. -/
structure MccPktInfo where
  ipv4 : IpHdr
  ipv6 : Ip6Hdr
  prot : MccProt
  p : Int
  len : BitVec 32
  pktType : MccPktType
  llinfo : MccPktLlInfo
deriving DecidableEq

def IpHdr.zero : IpHdr := ⟨0, 0, 0, 0, 0⟩

def Ip6Hdr.zero : Ip6Hdr := ⟨0, 0, 0⟩

/-! ## Finding the message -/

/-- `MCC_PPPOE_SESSION_STAGE`. -/
def mccPppoeSessionStage : BitVec 16 := 0x8864

/-- `MCC_IP_PROTO_IGMP`. -/
def mccIpProtoIgmp : BitVec 8 := 2

/-- `MCC_IP_PROTO_IPV6_HOP_BY_HOP`. -/
def mccIpProtoIpv6HopByHop : BitVec 8 := 0

/-- `MCC_IP_PROTO_IPV6_ROUTE`. -/
def mccIpProtoIpv6Route : BitVec 8 := 0x2B

/-- `MCC_IP_PROTO_IPV6_OPTS`. -/
def mccIpProtoIpv6Opts : BitVec 8 := 0x3C

/-- `MCC_IP_PROTO_IPV6_ICMP`. -/
def mccIpProtoIpv6Icmp : BitVec 8 := 0x3A

/-- `MCC_TLV_MLD`. -/
def mccTlvMld : BitVec 32 := 0x05020000

/-- `MCC_IPV6_EXT_HDR_MAX_REC_LEN` behind the start of the payload. -/
def extHdrLimit : Int := 114 + ip6HdrSize

/-- `struct ip6_ext`. -/
structure Ip6Ext where
  nxt : BitVec 8
  len : BitVec 8
deriving DecidableEq

/-- The extension header at `p`. -/
def RxBuffer.ip6ExtAt (buf : RxBuffer) (p : Int) : Ip6Ext :=
  ⟨buf.data p, buf.data (p + 1)⟩

def readIp6Ext (buf : RxBuffer) (p : Int) : Traced Access Ip6Ext :=
  .emit ⟨p, 2⟩ (buf.ip6ExtAt p)

/-- `opt_hdr_len`, which is one byte wide. -/
def Ip6Ext.optHdrLen (ext : Ip6Ext) : BitVec 8 :=
  (ext.len + 1) * 8

/-- `mcc_pkt_type_get`. -/
def mccPktTypeGet (buf : RxBuffer) (p : Int) : Traced Access MccPktType := do
  let type ← buf.read8 p
  match pktTypeOf type with
  | some pktType => pure pktType
  | none => .fail

/-- The IPv4 branch of `mcc_pkt_info_update`. -/
def mccPktIpv4Update (buf : RxBuffer) (llinfo : MccPktLlInfo) (off : Int) :
    Traced Access MccPktInfo := do
  let ipv4 ← readIpHdr buf off
  let csum ← mccPktIpv4CsumGet buf off ipv4.len
  if csum = 0 then
    if ipv4.protocol = mccIpProtoIgmp then
      let pktType ← mccPktTypeGet buf (off + ipv4.len)
      pure
        { ipv4 := ipv4
          ipv6 := .zero
          prot := .igmp
          p := off + ipv4.len
          len := ipv4.totLen.setWidth 32 - ipv4.ihl.setWidth 32
          pktType := pktType
          llinfo := llinfo }
    else
      .fail
  else
    .fail

/-- The loop over the extension headers, for a number of turns: an extension header whose
length is a multiple of 256 does not move `p`. It ends at the ICMPv6 header. -/
def extHdrWalk (buf : RxBuffer) : Nat → BitVec 8 → Int → BitVec 32 →
    Traced Access (Int × BitVec 32)
  | 0, _, _, _ => .fail
  | turns + 1, nextHdr, p, len =>
      if p < extHdrLimit then
        if nextHdr = mccIpProtoIpv6Route ∨ nextHdr = mccIpProtoIpv6Opts then do
          let optHdr ← readIp6Ext buf p
          extHdrWalk buf turns optHdr.nxt (p + optHdr.optHdrLen.toNat)
            (len - optHdr.optHdrLen.setWidth 32)
        else if nextHdr = mccIpProtoIpv6Icmp then
          pure (p, len)
        else
          .fail
      else
        .fail

/-- Where the MLD header of an IPv6 packet lies, and the length left to it. A hop by hop
header with the option of MLD comes right before the header. -/
def mldHdrFind (buf : RxBuffer) (turns : Nat) (ipv6 : Ip6Hdr) (p : Int) :
    Traced Access (Int × BitVec 32) :=
  if ipv6.nxt = mccIpProtoIpv6HopByHop then do
    let tlv ← .emit ⟨p + 2, 4⟩ (buf.field32 (p + 2))
    let optHdr ← readIp6Ext buf p
    let len := ipv6.plen.setWidth 32 - optHdr.optHdrLen.setWidth 32
    if tlv = mccTlvMld then
      pure (p + optHdr.optHdrLen.toNat, len)
    else
      extHdrWalk buf turns optHdr.nxt (p + optHdr.optHdrLen.toNat) len
  else
    extHdrWalk buf turns ipv6.nxt p (ipv6.plen.setWidth 32)

/-- The IPv6 branch of `mcc_pkt_info_update`. -/
def mccPktIpv6Update (buf : RxBuffer) (turns : Nat) (llinfo : MccPktLlInfo) (off : Int) :
    Traced Access MccPktInfo := do
  let ipv6 ← readIp6Hdr buf off
  let mld ← mldHdrFind buf turns ipv6 (off + ip6HdrSize)
  let pktType ← mccPktTypeGet buf mld.1
  pure
    { ipv4 := .zero
      ipv6 := ipv6
      prot := .mld
      p := mld.1
      len := mld.2
      pktType := pktType
      llinfo := llinfo }

/-- `mcc_pkt_info_update`. -/
def mccPktInfoUpdate (buf : RxBuffer) (turns : Nat) (llinfo : MccPktLlInfo) :
    Traced Access MccPktInfo := do
  let off : Int := llinfo.offsetIph.toNat
  let etherType ← buf.read16 (off - 2)
  if etherType = mccPppoeSessionStage then
    .fail
  else
    let iphdr ← readIpHdr buf off
    if iphdr.version = 4 then
      mccPktIpv4Update buf llinfo off
    else if iphdr.version = 6 then
      mccPktIpv6Update buf turns llinfo off
    else
      .fail

/-! ## The handlers of a protocol context -/

/-- `mcc_igmp_is_supported`, `mcc_mld_is_supported`. -/
def MccProt.supports (prot : MccProt) (upstream : Bool) (type : BitVec 8) : Bool :=
  if type = prot.queryType then !upstream
  else if type = prot.reportType ∨ type = prot.leaveType ∨ type = prot.recordsType then upstream
  else false

/-- `mcc_pkt_receive`. -/
def mccPktReceive (buf : RxBuffer) (turns : Nat) : Traced Access MccPktInfo := do
  let llinfo ← mccDevPktReceive buf
  mccPktDump buf
  let info ← mccPktInfoUpdate buf turns llinfo
  let type ← buf.read8 info.p
  if info.prot.supports info.llinfo.dirUs type then pure info else .fail

/-- `enum mcc_pkt_version`. -/
inductive MccPktVersion
  | na
  | igmpV1
  | igmpV2
  | igmpV3
  | mldV1
  | mldV2
deriving DecidableEq

/-- `mcc_igmp_ver_get`, for the type of the message. -/
def mccIgmpVerGet (info : MccPktInfo) (type : BitVec 8) : MccPktVersion :=
  if type = MccProt.igmp.recordsType then .igmpV3
  else if type = MccProt.igmp.reportType ∨ type = MccProt.igmp.leaveType then .igmpV2
  else if type = mccIgmpTypeV1MembershipReport then .igmpV1
  else if type = MccProt.igmp.queryType ∧ info.ipv4.len < info.ipv4.totLen.toNat then
    if 8 < info.ipv4.totLen.toNat - info.ipv4.len then .igmpV3 else .igmpV2
  else .na

/-- `mcc_mld_ver_get`, for the type of the message. -/
def mccMldVerGet (info : MccPktInfo) (type : BitVec 8) : MccPktVersion :=
  if type = MccProt.mld.reportType ∨ type = MccProt.mld.leaveType then .mldV1
  else if type = MccProt.mld.recordsType then .mldV2
  else if type = MccProt.mld.queryType then if 8 < info.len then .mldV2 else .mldV1
  else .na

/-- The version for the type of the message. -/
def MccPktInfo.version (info : MccPktInfo) (type : BitVec 8) : MccPktVersion :=
  match info.prot with
  | .igmp => mccIgmpVerGet info type
  | .mld => mccMldVerGet info type

/-- `version_get` of the protocol context. -/
def versionGet (buf : RxBuffer) (info : MccPktInfo) : Traced Access MccPktVersion := do
  let type ← buf.read8 info.p
  pure (info.version type)

def MccPktVersion.hasRecords (version : MccPktVersion) : Bool :=
  version = .igmpV3 ∨ version = .mldV2

def MccPktVersion.isSingle (version : MccPktVersion) : Bool :=
  version = .igmpV2 ∨ version = .mldV1

/-- `mcc_igmp_rec_num_get`, `mcc_mld_rec_num_get`. -/
def recNumGet (buf : RxBuffer) (info : MccPktInfo) : Traced Access (BitVec 16) := do
  let type ← buf.read8 info.p
  if type = info.prot.recordsType then
    buf.read16 (info.p + 6)
  else if type = info.prot.reportType ∨ type = info.prot.leaveType then
    pure 1
  else
    pure 0

/-- `struct mcc_pkt_igmp_v3_group_record`, `struct mcc_pkt_mld_v2_group_record`. -/
structure MccGroupRecord where
  type : BitVec 8
  auxNum : BitVec 8
  sNum : BitVec 16
deriving DecidableEq

/-- The group record at `r`. -/
def RxBuffer.recordAt (buf : RxBuffer) (r : Int) : MccGroupRecord :=
  ⟨buf.data r, buf.data (r + 1), buf.field16 (r + 2)⟩

def readRecord (buf : RxBuffer) (prot : MccProt) (r : Int) : Traced Access MccGroupRecord :=
  .emit ⟨r, prot.recSize⟩ (buf.recordAt r)

/-- The record behind the one at `r`. -/
def RxBuffer.recordNext (buf : RxBuffer) (prot : MccProt) (r : Int) : Int :=
  r + prot.recSize + (4 * (buf.recordAt r).auxNum.toNat : Nat) +
    (prot.addrLen * (buf.recordAt r).sNum.toNat : Nat)

/-- The loop of `mcc_igmp_rec_get` and `mcc_mld_rec_get` up to the break at `rec_idx`, which is
less than the number of records. -/
def recWalk (buf : RxBuffer) (prot : MccProt) : Nat → Int → Traced Access Int
  | 0, r => do
      let _ ← readRecord buf prot r
      pure r
  | recIdx + 1, r => do
      let _ ← readRecord buf prot r
      recWalk buf prot recIdx (buf.recordNext prot r)

/-- `mcc_igmp_rec_get`, `mcc_mld_rec_get`. -/
def recGet (buf : RxBuffer) (info : MccPktInfo) (recIdx : Nat) :
    Traced Access (Option Int) := do
  let recNum ← recNumGet buf info
  if recNum.toNat ≤ recIdx then
    pure none
  else
    let version ← versionGet buf info
    if version.hasRecords then
      let r ← recWalk buf info.prot recIdx (info.p + 8)
      pure (some r)
    else
      pure none

/-- `mcc_igmp_rec_snum_get`, `mcc_mld_rec_snum_get`. -/
def recSnumGet (buf : RxBuffer) (info : MccPktInfo) :
    Option Int → Traced Access (BitVec 16)
  | none => pure 0
  | some r => do
      let data ← readRecord buf info.prot r
      pure data.sNum

/-- `MCC_IGMP_CHANGE_TO_INCLUDE`, `MCC_MLD_CHANGE_TO_INCLUDE`. -/
def mccChangeToInclude : BitVec 8 := 3

/-- `MCC_IGMP_CHANGE_TO_EXCLUDE`, `MCC_MLD_CHANGE_TO_EXCLUDE`. -/
def mccChangeToExclude : BitVec 8 := 4

/-- `mcc_igmp_rec_type_get`, `mcc_mld_rec_type_get`. -/
def recTypeGet (buf : RxBuffer) (info : MccPktInfo) (pRec : Option Int) :
    Traced Access (BitVec 8) := do
  let version ← versionGet buf info
  if version.hasRecords then
    match pRec with
    | some r => do
        let data ← readRecord buf info.prot r
        pure data.type
    | none => pure 0
  else if version.isSingle then
    let type ← buf.read8 info.p
    if type = info.prot.reportType then pure mccChangeToExclude
    else if type = info.prot.leaveType then pure mccChangeToInclude
    else pure 0
  else
    pure 0

/-- `mcc_igmp_ga_get`, `mcc_mld_ga_get`. -/
def gaGet (buf : RxBuffer) (info : MccPktInfo) : Traced Access MccIpAddr :=
  buf.readAddr (info.p + info.prot.gaOffset) info.prot.addrLen

/-- `mcc_igmp_rec_ga_get`, `mcc_mld_rec_ga_get`. -/
def recGaGet (buf : RxBuffer) (info : MccPktInfo) (r : Int) : Traced Access MccIpAddr :=
  buf.readAddr (r + 4) info.prot.addrLen

/-- Where the source address `sIdx` of the record at `r` lies. -/
def MccProt.saOffset (prot : MccProt) (r : Int) (sIdx : Nat) : Int :=
  r + prot.recSize + (prot.addrLen * sIdx : Nat)

/-- `mcc_igmp_rec_sa_get`, `mcc_mld_rec_sa_get`. -/
def recSaGet (buf : RxBuffer) (info : MccPktInfo) (r : Int) (sIdx : Nat) :
    Traced Access MccIpAddr :=
  buf.readAddr (info.prot.saOffset r sIdx) info.prot.addrLen

/-! ## Decoding a report -/

/-- `mcc_pkt_rec_ga_get`. -/
def mccPktRecGaGet (buf : RxBuffer) (info : MccPktInfo) (recIdx : Nat) :
    Traced Access MccIpAddr := do
  let version ← versionGet buf info
  if version.hasRecords then
    let pRec ← recGet buf info recIdx
    match pRec with
    | some r => recGaGet buf info r
    | none => .fail
  else if version.isSingle then
    gaGet buf info
  else
    .fail

/-- `mcc_pkt_rec_sa_get`. -/
def mccPktRecSaGet (buf : RxBuffer) (info : MccPktInfo) (recIdx sIdx : Nat) :
    Traced Access MccIpAddr := do
  let version ← versionGet buf info
  if version.hasRecords then
    let pRec ← recGet buf info recIdx
    match pRec with
    | some r => do
        let sNum ← recSnumGet buf info (some r)
        if sNum.toNat ≤ sIdx then .fail else recSaGet buf info r sIdx
    | none => .fail
  else
    .fail

/-- `mcc_pkt_rec_ca_get`; the header has been copied already. -/
def mccPktRecCaGet (info : MccPktInfo) : MccIpAddr :=
  match info.prot with
  | .igmp => info.ipv4.saddr
  | .mld => info.ipv6.src

/-- `enum mcc_prot_version` of a packet type. -/
def protVersionOf : MccPktType → Nat
  | .igmpV2Report | .igmpV2Leave => 2
  | .igmpV3Report => 3
  | .mldV1Report | .mldV1Done => 16
  | .mldV2Report => 17
  | _ => 0

/-- The record types that `mcc_rec_get` supports. -/
def protRecTypeOf (type : BitVec 8) : Option MccProtRecType :=
  if type = 1 then some .isInclude
  else if type = 2 then some .isExclude
  else if type = mccChangeToInclude then some .changeToInclude
  else if type = mccChangeToExclude then some .changeToExclude
  else if type = 5 then some .allowNewSources
  else if type = 6 then some .blockOldSources
  else none

/-- The loop over the sources in `mcc_rec_get`, for a number of turns: `s` is one byte wide and
comes back to zero when there are more than 255 sources. -/
def sourcesWalk (buf : RxBuffer) (info : MccPktInfo) (recIdx : Nat) (saNum : BitVec 16) :
    Nat → BitVec 8 → List MccIpAddr → Traced Access (List MccIpAddr)
  | 0, _, _ => .fail
  | turns + 1, s, sas =>
      if s.toNat < saNum.toNat then do
        let sa ← mccPktRecSaGet buf info recIdx s.toNat
        sourcesWalk buf info recIdx saNum turns (s + 1) (sas ++ [sa])
      else
        pure sas

/-- What `mcc_rec_get` reads of the record `recIdx`. The port index has two bits, and there
are four ports. -/
def mccPktRecRead (buf : RxBuffer) (turns : Nat) (info : MccPktInfo) (recIdx : Nat) :
    Traced Access MccPktRec := do
  let ga ← mccPktRecGaGet buf info recIdx
  let pRec ← recGet buf info recIdx
  let saNum ← recSnumGet buf info pRec
  let protRecType ← recTypeGet buf info pRec
  match protRecTypeOf protRecType with
  | none => .fail
  | some recType =>
      if (recType = .allowNewSources ∨ recType = .blockOldSources) ∧ saNum = 0 then
        .fail
      else do
        let sas ← sourcesWalk buf info recIdx saNum turns 0 []
        pure
          { version := protVersionOf info.pktType
            port := info.llinfo.portIdx.toNat
            cvid := info.llinfo.cvid
            svid := info.llinfo.svid
            ga := ga
            ca := mccPktRecCaGet info
            recType := recType
            sas := sas }

/-! ## Decoding a query -/

/-- `MCC_QUERY_RESPONSE_INTERVAL_DEFAULT`. -/
def mccQueryResponseIntervalDefault : BitVec 32 := 10000

/-- `MCC_QUERY_INTERVAL_DEFAULT`. -/
def mccQueryIntervalDefault : BitVec 32 := 125000

/-- `MCC_QUERY_ROBUSTNESS_DEFAULT`. -/
def mccQueryRobustnessDefault : BitVec 32 := 2

/-- A number of `width` bits as mantissa and exponent. -/
def floatingCode (mantWidth : Nat) (code : BitVec 32) : BitVec 32 :=
  let mant := code &&& ((1 <<< mantWidth) - 1)
  let exp := (code >>> mantWidth) &&& 7
  (mant ||| (1 <<< mantWidth)) <<< (exp.toNat + 3)

/-- `mcc_igmp_max_resp_delay_get`, for the code of the message. -/
def igmpMaxRespDelay (code : BitVec 8) : BitVec 32 :=
  if code = 0 then mccQueryResponseIntervalDefault
  else if code < 128 then code.setWidth 32 * 100
  else floatingCode 4 (code.setWidth 32) * 100

/-- `mcc_mld_max_resp_delay_get`, for the delay of the message. -/
def mldMaxRespDelay (maxRespDelay : BitVec 16) : BitVec 32 :=
  if maxRespDelay = 0 then mccQueryResponseIntervalDefault
  else if maxRespDelay < 32768 then maxRespDelay.setWidth 32
  else floatingCode 12 (maxRespDelay.setWidth 32)

def readHdr {α : Type} (info : MccPktInfo) (field : α) : Traced Access α :=
  .emit ⟨info.p, info.prot.hdrSize⟩ field

/-- `max_resp_delay_get` of the protocol context. -/
def maxRespDelayGet (buf : RxBuffer) (info : MccPktInfo) : Traced Access (BitVec 32) :=
  match info.prot with
  | .igmp => readHdr info (igmpMaxRespDelay (buf.data (info.p + 1)))
  | .mld => readHdr info (mldMaxRespDelay (buf.field16 (info.p + 4)))

def MccProt.qrvOffset : MccProt → Nat
  | igmp => 8
  | mld => 24

/-- `mcc_igmp_query_qrv_get`, `mcc_mld_query_qrv_get`, and the default of `mcc_pkt_gmi_get`. -/
def queryQrvGet (buf : RxBuffer) (info : MccPktInfo) : Traced Access (BitVec 32) :=
  let qrv := (buf.data (info.p + info.prot.qrvOffset) &&& 7).setWidth 32
  readHdr info (if qrv = 0 then mccQueryRobustnessDefault else qrv)

/-- `mcc_pkt_qi_ms_get`. -/
def mccPktQiMsGet (buf : RxBuffer) (info : MccPktInfo) : Traced Access (BitVec 32) :=
  let qqic := buf.data (info.p + info.prot.qrvOffset + 1)
  readHdr info
    (if qqic = 0 then mccQueryIntervalDefault
    else if qqic < 128 then qqic.setWidth 32 * 1000
    else floatingCode 4 (qqic.setWidth 32) * 1000)

/-- `mcc_pkt_gmi_get`. -/
def mccPktGmiGet (buf : RxBuffer) (info : MccPktInfo) : Traced Access (BitVec 32) := do
  let version ← versionGet buf info
  let mrt ← maxRespDelayGet buf info
  if version.isSingle then
    pure (mccQueryIntervalDefault * mccQueryRobustnessDefault + mrt)
  else if version.hasRecords then
    let qrv ← queryQrvGet buf info
    let qi ← mccPktQiMsGet buf info
    pure (qi * qrv + mrt)
  else
    pure mrt

/-! ## The packet thread -/

/-- The state of the snooper that decides how far a packet is decoded. -/
structure MccPktEnv where
  /-- A MIB reset or a shutdown is in progress. -/
  resetting : Bool
  /-- The rate limit fails or drops the packet. -/
  limited : Bool
  /-- The forwarding update of a query fails. -/
  fwdFails : Bool
  /-- Some group waits for its aging time. -/
  gmiNeeded : Bool
  /-- `mcc_rec_process` fails on the record. -/
  recFails : Nat → Bool
  /-- The turns of the loop over the extension headers. -/
  extTurns : Nat
  /-- The turns of a loop over sources. -/
  sourceTurns : Nat

/-- What `mcc_qry_process` reads; the aging time is `none` where no group asks for it. -/
def mccQryRead (env : MccPktEnv) (buf : RxBuffer) (info : MccPktInfo) :
    Traced Access (MccIpAddr × Option (BitVec 32)) := do
  let _ ← gaGet buf info
  if env.fwdFails then
    .fail
  else
    let ga ← gaGet buf info
    if env.gmiNeeded then
      let gmi ← mccPktGmiGet buf info
      pure (ga, some gmi)
    else
      pure (ga, none)

/-- The loop of `mcc_rep_process`: `left` records from `recIdx` on. -/
def recordsRead (env : MccPktEnv) (buf : RxBuffer) (info : MccPktInfo) :
    Nat → Nat → Traced Access (List MccPktRec)
  | 0, _ => pure []
  | left + 1, recIdx => do
      let rec ← mccPktRecRead buf env.sourceTurns info recIdx
      if env.recFails recIdx then
        .fail
      else
        let recs ← recordsRead env buf info left (recIdx + 1)
        pure (rec :: recs)

/-- What `mcc_rep_process` reads. -/
def mccRepRead (env : MccPktEnv) (buf : RxBuffer) (info : MccPktInfo) :
    Traced Access (List MccPktRec) := do
  if env.limited then
    .fail
  else
    let recNum ← recNumGet buf info
    recordsRead env buf info recNum.toNat 0

/-- What `mcc_pkt_process` reads. -/
def mccPktProcess (env : MccPktEnv) (buf : RxBuffer) (info : MccPktInfo) :
    Traced Access (List MccPktRec) :=
  match info.pktType with
  | .igmpQuery | .mldQuery => do
      let _ ← mccQryRead env buf info
      pure []
  | .igmpV1Report => pure []
  | _ => mccRepRead env buf info

/-- One turn of `mcc_pkt_thread`: receive a packet and decode it. -/
def mccPktHandle (env : MccPktEnv) (buf : RxBuffer) : Traced Access (List MccPktRec) := do
  let info ← mccPktReceive buf env.extTurns
  if env.resetting then .fail else mccPktProcess env buf info

end FalconGpon.Mcc
