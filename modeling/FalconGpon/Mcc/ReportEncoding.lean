/-
# Reports on the wire

A report of IGMPv3 or MLDv2 is a list of group records, each with a list of sources and with
auxiliary words. `Report.bytes` lays a report out; `decodes_report` proves that the handlers of
both protocol contexts read it back, record by record and source by source, from wherever it
lies in a frame.
-/

import FalconGpon.Lib.Wire
import FalconGpon.Mcc.PacketBounds
import Mathlib.Tactic.Ring

namespace FalconGpon.Mcc

open FalconGpon.Lib

/-! ## The layout -/

abbrev MccProt.Addr (prot : MccProt) : Type :=
  BitVec (8 * prot.addrLen)

/-- The address at the start of a cleared `union mcc_ip_addr`. -/
def MccProt.ipAddr (prot : MccProt) (addr : prot.Addr) : MccIpAddr :=
  addr.setWidth 128 <<< (8 * (16 - prot.addrLen))

/-- A group record; its counts have one and two bytes. -/
structure GroupRecord (prot : MccProt) where
  type : BitVec 8
  group : prot.Addr
  sources : List prot.Addr
  aux : List (BitVec 32)
  sources_lt : sources.length < 2 ^ 16
  aux_lt : aux.length < 2 ^ 8

/-- A group record as it is sent: type, number of auxiliary words, number of sources, group,
sources and auxiliary words. -/
def GroupRecord.bytes {prot : MccProt} (rec : GroupRecord prot) : List (BitVec 8) :=
  rec.type :: BitVec.ofNat 8 rec.aux.length ::
    (wireBytes 2 (BitVec.ofNat 16 rec.sources.length) ++
      (wireBytes prot.addrLen rec.group ++
        (rec.sources.flatMap (wireBytes prot.addrLen) ++ rec.aux.flatMap (wireBytes 4))))

/-- A report; the reserved fields may have any value. -/
structure Report (prot : MccProt) where
  reserved1 : BitVec 8
  checksum : BitVec 16
  reserved2 : BitVec 16
  records : List (GroupRecord prot)
  records_lt : records.length < 2 ^ 16

/-- A report as it is sent. -/
def Report.bytes {prot : MccProt} (report : Report prot) : List (BitVec 8) :=
  prot.recordsType :: report.reserved1 ::
    (wireBytes 2 report.checksum ++
      (wireBytes 2 report.reserved2 ++
        (wireBytes 2 (BitVec.ofNat 16 report.records.length) ++
          report.records.flatMap GroupRecord.bytes)))

/-! ## One group record -/

section

variable {buf : RxBuffer} {prot : MccProt} {p r : Int}

/-- An address in memory is what the handlers copy. -/
theorem addrAt_of_lays {addr : prot.Addr} (h : Lays buf.data p (wireBytes prot.addrLen addr)) :
    buf.addrAt p prot.addrLen = prot.ipAddr addr := by
  have hbytes : ∀ i < 16, (if i < prot.addrLen then buf.data (p + i) else 0) =
      (prot.ipAddr addr).extractLsb' (8 * (15 - i)) 8 := by
    have hwidth : prot.addrLen ≤ 16 := by cases prot <;> decide
    intro i hi
    apply BitVec.eq_of_getLsbD_eq
    intro j hj
    simp only [MccProt.ipAddr, BitVec.getLsbD_extractLsb', BitVec.getLsbD_shiftLeft,
      BitVec.getLsbD_setWidth, hj, decide_true, Bool.true_and]
    split
    · rename_i hlow
      have hsame : 8 * (15 - i) + j - 8 * (16 - prot.addrLen) =
          8 * (prot.addrLen - 1 - i) + j := by omega
      have hword : 8 * (15 - i) + j < 128 := by omega
      have hpart : 8 * (prot.addrLen - 1 - i) + j < 128 := by omega
      have hhigh : ¬8 * (15 - i) + j < 8 * (16 - prot.addrLen) := by omega
      rw [h.byte hlow, BitVec.getLsbD_extractLsb', hsame]
      simp [hj, hword, hpart, hhigh]
    · have hhigh : 8 * (15 - i) + j < 8 * (16 - prot.addrLen) := by omega
      simp [hhigh]
  have hfold := @foldl_wireBytes 16 (prot.ipAddr addr) _ hbytes 16 le_rfl
  rw [RxBuffer.addrAt]
  simpa using hfold

variable {rec : GroupRecord prot}

theorem GroupRecord.length_bytes : rec.bytes.length =
    prot.recSize + 4 * rec.aux.length + prot.addrLen * rec.sources.length := by
  simp only [GroupRecord.bytes, MccProt.recSize, List.length_cons, List.length_append,
    length_wireBytes, List.length_flatMap, List.map_const', List.sum_replicate_nat]
  ring

/-- The fields of a record in memory. -/
structure GroupRecord.LiesAt (rec : GroupRecord prot) (buf : RxBuffer) (r : Int) : Prop where
  type : (buf.recordAt r).type = rec.type
  auxNum : (buf.recordAt r).auxNum.toNat = rec.aux.length
  sNum : (buf.recordAt r).sNum.toNat = rec.sources.length
  group : buf.addrAt (r + 4) prot.addrLen = prot.ipAddr rec.group
  source : ∀ i (hi : i < rec.sources.length),
    buf.addrAt (prot.saOffset r i) prot.addrLen = prot.ipAddr rec.sources[i]

theorem GroupRecord.liesAt (h : Lays buf.data r rec.bytes) : rec.LiesAt buf r := by
  simp only [GroupRecord.bytes, lays_cons, lays_append, length_wireBytes] at h
  obtain ⟨htype, haux, hnum, hgroup, hsources, _⟩ := h
  have hgroupAt : r + 1 + 1 + (2 : Nat) = r + 4 := by omega
  have hsourcesAt : r + 1 + 1 + (2 : Nat) + prot.addrLen = r + prot.recSize := by
    rw [MccProt.recSize]
    push_cast
    omega
  rw [hgroupAt] at hgroup
  rw [hsourcesAt] at hsources
  constructor
  case type => exact htype
  case auxNum =>
      rw [RxBuffer.recordAt, haux]
      exact Nat.mod_eq_of_lt rec.aux_lt
  case sNum =>
      have hfield : buf.field16 (r + 2) = BitVec.ofNat 16 rec.sources.length := by
        have hat : r + 1 + 1 = r + 2 := by omega
        rw [hat] at hnum
        exact hnum.word
      rw [RxBuffer.recordAt, hfield]
      exact Nat.mod_eq_of_lt rec.sources_lt
  case group => exact addrAt_of_lays hgroup
  case source =>
      intro i hi
      rw [MccProt.saOffset]
      exact addrAt_of_lays (hsources.piece (fun _ _ => length_wireBytes) hi)

theorem recordNext_of_lays (h : Lays buf.data r rec.bytes) :
    buf.recordNext prot r = r + rec.bytes.length := by
  rw [RxBuffer.recordNext, (GroupRecord.liesAt h).auxNum, (GroupRecord.liesAt h).sNum,
    GroupRecord.length_bytes]
  push_cast
  ring

theorem recordAfter_eq_iterate (k : Nat) (r : Int) :
    buf.recordAfter prot k r = (buf.recordNext prot)^[k] r := by
  induction k generalizing r with
  | zero => rfl
  | succ k ih => exact ih (buf.recordNext prot r)

end

/-! ## The report -/

section

variable {buf : RxBuffer} {prot : MccProt} {report : Report prot} {p : Int}

/-- The fields of a report in memory. -/
structure Report.LiesAt (report : Report prot) (buf : RxBuffer) (p : Int) : Prop where
  type : buf.data p = prot.recordsType
  num : (buf.field16 (p + 6)).toNat = report.records.length
  record : ∀ k (hk : k < report.records.length),
    report.records[k].LiesAt buf (buf.recordAfter prot k (p + 8))

theorem Report.liesAt (h : Lays buf.data p report.bytes) : report.LiesAt buf p := by
  simp only [Report.bytes, lays_cons, lays_append, length_wireBytes] at h
  obtain ⟨htype, _, _, _, hnum, hrecords⟩ := h
  have hnumAt : p + 1 + 1 + (2 : Nat) + (2 : Nat) = p + 6 := by omega
  have hrecordsAt : p + 1 + 1 + (2 : Nat) + (2 : Nat) + (2 : Nat) = p + 8 := by omega
  rw [hnumAt] at hnum
  rw [hrecordsAt] at hrecords
  constructor
  case type => exact htype
  case num =>
      have hfield : buf.field16 (p + 6) = BitVec.ofNat 16 report.records.length := hnum.word
      rw [hfield]
      exact Nat.mod_eq_of_lt report.records_lt
  case record =>
      intro k hk
      rw [recordAfter_eq_iterate]
      exact GroupRecord.liesAt (hrecords.walk (fun _ _ _ => recordNext_of_lays) hk)

/-- `MCC_PKT_TYPE_IGMP_V3_REPORT`, `MCC_PKT_TYPE_MLD_V2_REPORT`. -/
def MccProt.recordsPktType : MccProt → MccPktType
  | igmp => .igmpV3Report
  | mld => .mldV2Report

/-- `MCC_PKT_IGMP_VERSION_3`, `MCC_PKT_MLD_VERSION_2`. -/
def MccProt.recordsVersion : MccProt → MccPktVersion
  | igmp => .igmpV3
  | mld => .mldV2

theorem result_mccPktTypeGet_records (htype : buf.data p = prot.recordsType) :
    (mccPktTypeGet buf p).result = some prot.recordsPktType := by
  have hpkt : pktTypeOf prot.recordsType = some prot.recordsPktType := by
    cases prot <;> rfl
  simp [mccPktTypeGet, htype, hpkt]

/-- What the accessors of the packet layer give for a group record. -/
structure RecordDecoded (buf : RxBuffer) (info : MccPktInfo) (recIdx : Nat)
    {prot : MccProt} (rec : GroupRecord prot) (r : Int) : Prop where
  found : (recGet buf info recIdx).result = some (some r)
  sNum : (recSnumGet buf info (some r)).result = some (BitVec.ofNat 16 rec.sources.length)
  type : (recTypeGet buf info (some r)).result = some rec.type
  group : (recGaGet buf info r).result = some (prot.ipAddr rec.group)
  pktGroup : (mccPktRecGaGet buf info recIdx).result = some (prot.ipAddr rec.group)
  source : ∀ i (hi : i < rec.sources.length),
    (recSaGet buf info r i).result = some (prot.ipAddr rec.sources[i])
  pktSource : ∀ i (hi : i < rec.sources.length),
    (mccPktRecSaGet buf info recIdx i).result = some (prot.ipAddr rec.sources[i])
  noSource : ∀ i, rec.sources.length ≤ i → (mccPktRecSaGet buf info recIdx i).result = none

/-- What the accessors of the packet layer give for a report. -/
structure ReportDecoded (buf : RxBuffer) (info : MccPktInfo) {prot : MccProt}
    (report : Report prot) : Prop where
  pktType : (mccPktTypeGet buf info.p).result = some prot.recordsPktType
  version : (versionGet buf info).result = some prot.recordsVersion
  recNum : (recNumGet buf info).result = some (BitVec.ofNat 16 report.records.length)
  record : ∀ k (hk : k < report.records.length),
    ∃ r, RecordDecoded buf info k report.records[k] r
  noRecord : ∀ k, report.records.length ≤ k → (recGet buf info k).result = some none

end

section

variable {buf : RxBuffer} {info : MccPktInfo} {report : Report info.prot}

/-- A report that lies at the header found is decoded record by record. -/
theorem recordDecoded_of_liesAt (h : report.LiesAt buf info.p) {k : Nat}
    (hk : k < report.records.length) :
    RecordDecoded buf info k report.records[k] (buf.recordOf info k) := by
  have htype : buf.data info.p = info.prot.recordsType := h.type
  have hidx : k < (buf.field16 (info.p + 6)).toNat := h.num.symm ▸ hk
  have hrec : report.records[k].LiesAt buf (buf.recordOf info k) := h.record k hk
  have hnum : (buf.recordAt (buf.recordOf info k)).sNum =
      BitVec.ofNat 16 report.records[k].sources.length := by
    rw [← hrec.sNum, BitVec.ofNat_toNat, BitVec.setWidth_eq]
  constructor
  case found => exact result_recGet_records htype hidx
  case sNum => simp [recSnumGet, hnum]
  case type => rw [result_recTypeGet_records htype, hrec.type]
  case group => rw [recGaGet, result_readAddr, hrec.group]
  case pktGroup =>
      simp [mccPktRecGaGet, versionGet, hasRecords_version htype,
        result_recGet_records htype hidx, recGaGet, hrec.group]
  case source =>
      intro i hi
      rw [recSaGet, result_readAddr, hrec.source i hi]
  case pktSource =>
      intro i hi
      have hs : i < (buf.recordAt (buf.recordOf info k)).sNum.toNat := hrec.sNum.symm ▸ hi
      simp [mccPktRecSaGet, versionGet, hasRecords_version htype,
        result_recGet_records htype hidx, recSnumGet, Nat.not_le.mpr hs, recSaGet,
        hrec.source i hi]
  case noSource =>
      intro i hi
      have hs : (buf.recordAt (buf.recordOf info k)).sNum.toNat ≤ i := hrec.sNum.symm ▸ hi
      simp [mccPktRecSaGet, versionGet, hasRecords_version htype,
        result_recGet_records htype hidx, recSnumGet, hs]

/-- The packet layer decodes a report that lies at the header found. -/
theorem reportDecoded_of_liesAt (h : report.LiesAt buf info.p) : ReportDecoded buf info report := by
  have htype : buf.data info.p = info.prot.recordsType := h.type
  constructor
  case pktType =>
      exact result_mccPktTypeGet_records htype
  case version =>
      have hversion : info.version info.prot.recordsType = info.prot.recordsVersion := by
        rw [MccPktInfo.version]
        cases info.prot <;> rfl
      simp [versionGet, htype, hversion]
  case recNum =>
      rw [result_recNumGet_records htype, ← h.num, BitVec.ofNat_toNat, BitVec.setWidth_eq]
  case record =>
      intro k hk
      exact ⟨_, recordDecoded_of_liesAt h hk⟩
  case noRecord =>
      intro k hk
      simp [recGet, result_recNumGet_records htype, h.num, hk]

end

/-! ## Frames with a report -/

section

variable {buf : RxBuffer} {prot : MccProt} {p : Int}

/-- How a message at `p` is sent upstream: behind an IPv4 header with its options, or behind an
IPv6 header and a hop by hop header. The option of MLD comes first in this header, or the
message lies where the snooper still looks for it. -/
inductive RxBuffer.Encapsulates (buf : RxBuffer) : MccProt → Int → Prop
  | igmp (version : (buf.ipHdrAt buf.offsetIph).version = 4)
      (csum : (mccPktIpv4CsumGet buf buf.offsetIph (buf.ipHdrAt buf.offsetIph).len).result = some 0)
      (protocol : (buf.ipHdrAt buf.offsetIph).protocol = mccIpProtoIgmp) :
      buf.Encapsulates .igmp (buf.offsetIph + (buf.ipHdrAt buf.offsetIph).len)
  | mld (version : (buf.ipHdrAt buf.offsetIph).version = 6)
      (hopByHop : (buf.ip6HdrAt buf.offsetIph).nxt = mccIpProtoIpv6HopByHop)
      (icmp : (buf.ip6ExtAt (buf.offsetIph + ip6HdrSize)).nxt = mccIpProtoIpv6Icmp)
      (near : buf.field32 (buf.offsetIph + ip6HdrSize + 2) = mccTlvMld ∨
        buf.hopByHopEnd (buf.offsetIph + ip6HdrSize) < extHdrLimit) :
      buf.Encapsulates .mld (buf.hopByHopEnd (buf.offsetIph + ip6HdrSize))

/-- The frame is sent upstream and not in a PPPoE session. -/
structure RxBuffer.Upstream (buf : RxBuffer) : Prop where
  received : buf.len ≠ 0
  upstream : buf.upstream = true
  etherType : buf.field16 (buf.offsetIph - 2) ≠ mccPppoeSessionStage

/-- The message of an IPv6 frame is found. -/
theorem result_mldHdrFind (turns : Nat)
    (hhop : (buf.ip6HdrAt buf.offsetIph).nxt = mccIpProtoIpv6HopByHop)
    (hicmp : (buf.ip6ExtAt (buf.offsetIph + ip6HdrSize)).nxt = mccIpProtoIpv6Icmp)
    (hnear : buf.field32 (buf.offsetIph + ip6HdrSize + 2) = mccTlvMld ∨
      buf.hopByHopEnd (buf.offsetIph + ip6HdrSize) < extHdrLimit) :
    ∃ len, (mldHdrFind buf (turns + 1) (buf.ip6HdrAt buf.offsetIph)
      (buf.offsetIph + ip6HdrSize)).result =
        some (buf.hopByHopEnd (buf.offsetIph + ip6HdrSize), len) := by
  rw [mldHdrFind, if_pos hhop]
  simp only [Traced.result_bind, Traced.result_emit, Option.bind_some, result_readIp6Ext]
  split
  · exact ⟨_, rfl⟩
  · rename_i htlv
    have hbelow := hnear.resolve_left htlv
    rw [RxBuffer.hopByHopEnd] at hbelow
    rw [hicmp, extHdrWalk, if_pos hbelow]
    exact ⟨_, rfl⟩

/-- The report of a frame is found. -/
theorem exists_result_mccPktInfoUpdate (hup : buf.Upstream) (hframe : buf.Encapsulates prot p)
    (htype : buf.data p = prot.recordsType) (turns : Nat) {llinfo : MccPktLlInfo}
    (hoff : (llinfo.offsetIph.toNat : Int) = buf.offsetIph) :
    ∃ info, (mccPktInfoUpdate buf (turns + 1) llinfo).result = some info ∧ info.prot = prot ∧
      info.p = p ∧ info.pktType = prot.recordsPktType ∧ info.llinfo = llinfo := by
  have hpkt := result_mccPktTypeGet_records htype
  cases hframe with
  | igmp hversion hcsum hprotocol =>
      simp only [mccPktInfoUpdate, hoff, Traced.result_bind, result_read16, Option.bind_some,
        if_neg hup.etherType, result_readIpHdr, hversion, if_true, mccPktIpv4Update, hcsum,
        hprotocol, hpkt, Traced.result_pure, Option.some.injEq, exists_eq_left', and_self]
  | mld hversion hhop hicmp hnear =>
      have hother : ¬(6 : BitVec 4) = 4 := by decide
      obtain ⟨len, hfind⟩ := result_mldHdrFind turns hhop hicmp hnear
      simp only [mccPktInfoUpdate, hoff, Traced.result_bind, result_read16, Option.bind_some,
        if_neg hup.etherType, result_readIpHdr, hversion, if_neg hother, if_true,
        mccPktIpv6Update, result_readIp6Hdr, hfind, hpkt, Traced.result_pure, Option.some.injEq,
        exists_eq_left', and_self]

theorem exists_result_mccPktReceive (hup : buf.Upstream) (hframe : buf.Encapsulates prot p)
    (htype : buf.data p = prot.recordsType) (turns : Nat) :
    ∃ info, (mccPktReceive buf (turns + 1)).result = some info ∧ info.prot = prot ∧
      info.p = p ∧ info.pktType = prot.recordsPktType := by
  obtain ⟨_, llinfo, hllinfo, hoff, hdir⟩ := exists_mccDevPktReceive hup.received
  obtain ⟨info, hinfo, hprot, hp, hpkt, hll⟩ :=
    exists_result_mccPktInfoUpdate hup hframe htype turns hoff
  have hsupports : prot.supports info.llinfo.dirUs prot.recordsType = true := by
    rw [hll, hdir, hup.upstream]
    cases prot <;> rfl
  refine ⟨info, ?_, hprot, hp, hpkt⟩
  simp only [mccPktReceive, mccPktDump, Traced.result_bind, hllinfo, Traced.result_emit,
    Option.bind_some, hinfo, result_read8, hprot, hp, htype, hsupports, if_true,
    Traced.result_pure]

/-- What the packet layer reads from a report, wherever it lies, is what was laid out; and in a
frame that is sent upstream it is found. -/
theorem decodes_report (report : Report prot) (buf : RxBuffer) (p : Int)
    (hlays : Lays buf.data p report.bytes) :
    (∀ info : MccPktInfo, info.prot = prot → info.p = p → ReportDecoded buf info report) ∧
      (buf.Upstream → buf.Encapsulates prot p → ∀ turns, ∃ info,
        (mccPktReceive buf (turns + 1)).result = some info ∧ info.prot = prot ∧ info.p = p ∧
          info.pktType = prot.recordsPktType ∧ ReportDecoded buf info report) := by
  have hlies : report.LiesAt buf p := Report.liesAt hlays
  have hdecoded : ∀ info : MccPktInfo, info.prot = prot → info.p = p →
      ReportDecoded buf info report := by
    rintro info rfl rfl
    exact reportDecoded_of_liesAt hlies
  refine ⟨hdecoded, ?_⟩
  intro hup hframe turns
  obtain ⟨info, hinfo, hprot, hp, hpkt⟩ :=
    exists_result_mccPktReceive hup hframe hlies.type turns
  exact ⟨info, hinfo, hprot, hp, hpkt, hdecoded info hprot hp⟩

end

/-! ## Frames of both protocols -/

/-- A frame with some headers and a report. -/
def reportFrame {prot : MccProt} (headers : List (BitVec 8)) (report : Report prot) (len : Nat)
    (len_le : len ≤ mccPktMaxSizeByte) : RxBuffer where
  data := memOf (headers ++ report.bytes ++ []) 0
  len := len
  len_le := len_le

/-- The headers of a report that is sent upstream over IPv4. -/
def igmpHeaders (totLen csum : BitVec 16) : List (BitVec 8) :=
  -- the exception header and the Ethernet header
  [0, 0, 0, 192, 0, 0, 0, 12,
    1, 0, 94, 0, 0, 22, 2, 0, 0, 0, 0, 1, 8, 0] ++
  -- the IPv4 header
  ([69, 0] ++ wireBytes 2 totLen ++ [0, 0, 0, 0, 1, 2] ++ wireBytes 2 csum ++
    [192, 0, 2, 1, 224, 0, 0, 22])

/-- The headers of a report that is sent upstream over IPv6. -/
def mldHeaders (plen : BitVec 16) : List (BitVec 8) :=
  -- the exception header and the Ethernet header
  [0, 0, 0, 192, 0, 0, 0, 12,
    51, 51, 0, 0, 0, 22, 2, 0, 0, 0, 0, 1, 134, 221] ++
  -- the IPv6 header
  ([96, 0, 0, 0] ++ wireBytes 2 plen ++ [0, 1] ++
    wireBytes 16 0xfe800000000000000000000000000001#128 ++
    wireBytes 16 0xff020000000000000000000000000016#128) ++
  -- the hop by hop header with the option of MLD
  [58, 0, 5, 2, 0, 0, 1, 0]

theorem length_noAux_lt : ([] : List (BitVec 32)).length < 2 ^ 8 := by decide

theorem length_oneAux_lt : ([7] : List (BitVec 32)).length < 2 ^ 8 := by decide

/-- A group left to all sources, and two sources of another with an auxiliary word. -/
def twoRecords (prot : MccProt) : Report prot where
  reserved1 := 0
  checksum := 0xb2b3
  reserved2 := 0
  records :=
    [{ type := 4, group := BitVec.ofNat _ 0xef010101, sources := [], aux := []
       sources_lt := Nat.le_of_ble_eq_true rfl, aux_lt := length_noAux_lt },
     { type := 1, group := BitVec.ofNat _ 0xef010102
       sources := [BitVec.ofNat _ 0xc6336401, BitVec.ofNat _ 0xc6336402], aux := [7]
       sources_lt := Nat.le_of_ble_eq_true rfl, aux_lt := length_oneAux_lt }]
  records_lt := Nat.le_of_ble_eq_true rfl

/-- Both records are read from frames of both protocols. -/
theorem decodes_twoRecords : (∃ info, (mccPktReceive
        (reportFrame (igmpHeaders 56 0x17ad) (twoRecords .igmp) 78 (by decide)) 1).result =
          some info ∧ info.prot = .igmp ∧ info.p = 42 ∧ info.pktType = .igmpV3Report ∧
        ReportDecoded (reportFrame (igmpHeaders 56 0x17ad) (twoRecords .igmp) 78 (by decide)) info
          (twoRecords .igmp)) ∧
      ∃ info, (mccPktReceive
        (reportFrame (mldHeaders 92) (twoRecords .mld) 154 (by decide)) 1).result =
          some info ∧ info.prot = .mld ∧ info.p = 70 ∧ info.pktType = .mldV2Report ∧
        ReportDecoded (reportFrame (mldHeaders 92) (twoRecords .mld) 154 (by decide)) info
          (twoRecords .mld) :=
  ⟨(decodes_report (twoRecords .igmp) _ 42 lays_memOf).2 ⟨by decide, by decide, by decide⟩
      (.igmp (by decide) (by decide) (by decide)) 0,
    (decodes_report (twoRecords .mld) _ 70 lays_memOf).2 ⟨by decide, by decide, by decide⟩
      (.mld (by decide) (by decide) (by decide) (by decide)) 0⟩

end FalconGpon.Mcc
