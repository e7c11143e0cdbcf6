/-
# The bounds of the packet buffer

`RxBuffer.Fits` says of a frame that it is as long as its own length fields announce, as far
as the packet layer follows them. `reads_inside_iff` proves that this is exactly when every
read of the packet layer, in every state of the snooper, lies inside the received length: the
length is compared with the exception header only, and no later field is checked against it.
-/

import FalconGpon.Mcc.PacketDecode

namespace FalconGpon.Mcc

open FalconGpon.Lib

namespace RxBuffer

variable (buf : RxBuffer)

/-! ## Frames that hold what they announce -/

/-- The record that comes `k` records after the one at `r`. -/
def recordAfter (prot : MccProt) : Nat → Int → Int
  | 0, r => r
  | k + 1, r => recordAfter prot k (buf.recordNext prot r)

/-- `mcc_rec_get` looks at the sources of a record: its type is known, and it has a source
where it needs one. -/
def RecordRead (r : Int) : Prop :=
  ∃ recType, protRecTypeOf (buf.recordAt r).type = some recType ∧
    ¬((recType = .allowNewSources ∨ recType = .blockOldSources) ∧ (buf.recordAt r).sNum = 0)

/-- The frame holds a record, and of its sources as many as an index of one byte reaches. -/
def RecordFits (prot : MccProt) (r : Int) : Prop :=
  buf.Holds r prot.recSize ∧
    (buf.RecordRead r →
      buf.Holds r (prot.recSize + prot.addrLen * min (buf.recordAt r).sNum.toNat 256))

/-- Each of `num` records from `r` on fits that the snooper gets to: it stays at a record with
more sources than an index of one byte counts. -/
def RecordsFit (prot : MccProt) (r : Int) (num : Nat) : Prop :=
  ∀ i < num,
    (∀ j < i, buf.RecordRead (buf.recordAfter prot j r) ∧
      (buf.recordAt (buf.recordAfter prot j r)).sNum.toNat < 256) →
    buf.RecordFits prot (buf.recordAfter prot i r)

/-- The frame holds the message at `p`, as far as its type is supported in its direction. -/
structure MessageFits (prot : MccProt) (upstream : Bool) (p : Int) : Prop where
  type : buf.Holds p 1
  query : buf.data p = prot.queryType → upstream = false → buf.Holds p prot.hdrSize
  single : buf.data p = prot.reportType ∨ buf.data p = prot.leaveType → upstream = true →
    buf.Holds p (prot.gaOffset + prot.addrLen)
  header : buf.data p = prot.recordsType → upstream = true → buf.Holds p 8
  records : buf.data p = prot.recordsType → upstream = true →
    buf.RecordsFit prot (p + 8) (buf.field16 (p + 6)).toNat

/-- The header behind an extension header, and where it lies. -/
def extHdrNext (nextHdr : BitVec 8) (p : Int) : Option (BitVec 8 × Int) :=
  if p < extHdrLimit ∧ (nextHdr = mccIpProtoIpv6Route ∨ nextHdr = mccIpProtoIpv6Opts) then
    some ((buf.ip6ExtAt p).nxt, p + (buf.ip6ExtAt p).optHdrLen.toNat)
  else none

/-- The header that comes `k` extension headers after the first. -/
def extHdrAfter : Nat → BitVec 8 → Int → Option (BitVec 8 × Int)
  | 0, nextHdr, p => some (nextHdr, p)
  | k + 1, nextHdr, p =>
      (buf.extHdrNext nextHdr p).bind fun next => extHdrAfter k next.1 next.2

/-- The frame holds every extension header of the chain from `p` on, and the message behind
the last one. -/
def ChainFits (upstream : Bool) (nextHdr : BitVec 8) (p : Int) : Prop :=
  ∀ k nextHdr' p', buf.extHdrAfter k nextHdr p = some (nextHdr', p') → p' < extHdrLimit →
    (nextHdr' = mccIpProtoIpv6Route ∨ nextHdr' = mccIpProtoIpv6Opts → buf.Holds p' 2) ∧
    (nextHdr' = mccIpProtoIpv6Icmp → buf.MessageFits .mld upstream p')

/-- The frame holds the IPv4 header at `off` with its options, and the message behind it. -/
structure Ipv4Fits (upstream : Bool) (off : Int) : Prop where
  options : buf.Holds off (buf.ipHdrAt off).len
  message : (mccPktIpv4CsumGet buf off (buf.ipHdrAt off).len).result = some 0 →
    (buf.ipHdrAt off).protocol = mccIpProtoIgmp →
    buf.MessageFits .igmp upstream (off + (buf.ipHdrAt off).len)

def hopByHopEnd (p : Int) : Int :=
  p + (buf.ip6ExtAt p).optHdrLen.toNat

/-- The frame holds the IPv6 header at `off`, and what follows it. -/
structure Ipv6Fits (upstream : Bool) (off : Int) : Prop where
  header : buf.Holds off ip6HdrSize
  hopByHop : (buf.ip6HdrAt off).nxt = mccIpProtoIpv6HopByHop → buf.Holds (off + ip6HdrSize) 6
  option : (buf.ip6HdrAt off).nxt = mccIpProtoIpv6HopByHop →
    buf.field32 (off + ip6HdrSize + 2) = mccTlvMld →
    buf.MessageFits .mld upstream (buf.hopByHopEnd (off + ip6HdrSize))
  rest : (buf.ip6HdrAt off).nxt = mccIpProtoIpv6HopByHop →
    buf.field32 (off + ip6HdrSize + 2) ≠ mccTlvMld →
    buf.ChainFits upstream (buf.ip6ExtAt (off + ip6HdrSize)).nxt
      (buf.hopByHopEnd (off + ip6HdrSize))
  chain : (buf.ip6HdrAt off).nxt ≠ mccIpProtoIpv6HopByHop →
    buf.ChainFits upstream (buf.ip6HdrAt off).nxt (off + ip6HdrSize)

/-- Where `mcc_dev_pkt_receive` places the IP header. -/
def offsetIph : Int :=
  if buf.len < mccExcHdrSize then mccLlInfoDefault.offsetIph.toNat
  else (offsetIphGet (buf.data 7)).toNat

/-- The direction that `mcc_dev_pkt_receive` finds. -/
def upstream : Bool :=
  buf.len < mccExcHdrSize ∨ (buf.data 3 >>> 6) &&& 3 = mccExcSrcLanIngress

/-- The frame holds the Ethertype, the IP header and what this announces. -/
structure Fits : Prop where
  etherType : buf.Holds (buf.offsetIph - 2) 2
  header : buf.field16 (buf.offsetIph - 2) ≠ mccPppoeSessionStage →
    buf.Holds buf.offsetIph ipHdrSize
  ipv4 : buf.field16 (buf.offsetIph - 2) ≠ mccPppoeSessionStage →
    (buf.ipHdrAt buf.offsetIph).version = 4 → buf.Ipv4Fits buf.upstream buf.offsetIph
  ipv6 : buf.field16 (buf.offsetIph - 2) ≠ mccPppoeSessionStage →
    (buf.ipHdrAt buf.offsetIph).version = 6 → buf.Ipv6Fits buf.upstream buf.offsetIph

end RxBuffer

/-! ## Single reads -/

section

variable {buf : RxBuffer} {p : Int}

@[simp] theorem all_read8 : (buf.read8 p).All buf.Inside ↔ buf.Holds p 1 :=
  Traced.all_emit

@[simp] theorem all_read16 : (buf.read16 p).All buf.Inside ↔ buf.Holds p 2 :=
  Traced.all_emit

@[simp] theorem all_readAddr {width : Nat} :
    (buf.readAddr p width).All buf.Inside ↔ buf.Holds p width :=
  Traced.all_emit

@[simp] theorem all_readRecord {prot : MccProt} :
    (readRecord buf prot p).All buf.Inside ↔ buf.Holds p prot.recSize :=
  Traced.all_emit

@[simp] theorem all_readHdr {α : Type} {info : MccPktInfo} {field : α} :
    (readHdr info field).All buf.Inside ↔ buf.Holds info.p info.prot.hdrSize :=
  Traced.all_emit

@[simp] theorem result_read8 : (buf.read8 p).result = some (buf.data p) :=
  rfl

@[simp] theorem result_read16 : (buf.read16 p).result = some (buf.field16 p) :=
  rfl

@[simp] theorem result_readAddr {width : Nat} :
    (buf.readAddr p width).result = some (buf.addrAt p width) :=
  rfl

@[simp] theorem result_readIpHdr : (readIpHdr buf p).result = some (buf.ipHdrAt p) :=
  rfl

@[simp] theorem result_readIp6Hdr : (readIp6Hdr buf p).result = some (buf.ip6HdrAt p) :=
  rfl

@[simp] theorem result_readIp6Ext : (readIp6Ext buf p).result = some (buf.ip6ExtAt p) :=
  rfl

@[simp] theorem result_readRecord {prot : MccProt} :
    (readRecord buf prot p).result = some (buf.recordAt p) :=
  rfl

@[simp] theorem result_readHdr {α : Type} {info : MccPktInfo} {field : α} :
    (readHdr info field).result = some field :=
  rfl

theorem RxBuffer.Holds.part {q : Int} {width width' : Nat} (h : buf.Holds p width)
    (hfrom : p ≤ q) (hto : q + width' ≤ p + width) : buf.Holds q width' :=
  ⟨h.1.trans hfrom, hto.trans h.2⟩

/-! ## The checksum -/

/-- The checksum reads the header it is asked for, and nothing of an empty one. -/
theorem all_csumWords (bytes : Nat) (sum : BitVec 32) (hstart : buf.Holds p 0) :
    (csumWords buf bytes p sum).All buf.Inside ↔ buf.Holds p bytes := by
  induction bytes using Nat.twoStepInduction generalizing p sum with
  | zero => simp [csumWords, hstart]
  | one => simp [csumWords]
  | more bytes ih _ =>
      have hsplit : (csumWords buf (bytes + 2) p sum).All buf.Inside ↔
          buf.Holds p 2 ∧
            (csumWords buf bytes (p + 2) (sum + (buf.field16 p).setWidth 32)).All buf.Inside := by
        simp [csumWords]
      rw [hsplit]
      constructor
      · intro h
        have hnext : buf.Holds (p + 2) 0 := h.1.part (by omega) (by push_cast; omega)
        have hend := ((ih _ hnext).mp h.2).2
        exact ⟨h.1.1, by push_cast at hend ⊢; omega⟩
      · intro h
        have hword : buf.Holds p 2 := h.part le_rfl (by push_cast; omega)
        have hnext : buf.Holds (p + 2) 0 := hword.part (by omega) (by push_cast; omega)
        exact ⟨hword, (ih _ hnext).mpr (h.part (by omega) (by push_cast; omega))⟩

theorem all_mccPktIpv4CsumGet (len : Nat) (hstart : buf.Holds p 0) :
    (mccPktIpv4CsumGet buf p len).All buf.Inside ↔ buf.Holds p len := by
  simp [mccPktIpv4CsumGet, all_csumWords _ _ hstart]

end

/-! ## Reports with group records -/

section

variable {buf : RxBuffer} {prot : MccProt}

@[simp] theorem result_recWalk (k : Nat) (r : Int) :
    (recWalk buf prot k r).result = some (buf.recordAfter prot k r) := by
  induction k generalizing r with
  | zero => rfl
  | succ k ih => exact ih (buf.recordNext prot r)

theorem all_recWalk (k : Nat) (r : Int) : (recWalk buf prot k r).All buf.Inside ↔
      ∀ j ≤ k, buf.Holds (buf.recordAfter prot j r) prot.recSize := by
  induction k generalizing r with
  | zero =>
      simp only [recWalk, Traced.all_bind, all_readRecord, Traced.all_pure, implies_true,
        and_true]
      constructor
      · intro h j hj
        rw [Nat.le_zero.mp hj]
        exact h
      · intro h
        exact h 0 le_rfl
  | succ k ih =>
      simp only [recWalk, Traced.all_bind, all_readRecord, result_readRecord, ih]
      constructor
      · intro h j hj
        cases j with
        | zero => exact h.1
        | succ j => exact h.2 _ rfl j (Nat.le_of_succ_le_succ hj)
      · intro h
        exact ⟨h 0 (Nat.zero_le _), fun _ _ j hj => h (j + 1) (Nat.succ_le_succ hj)⟩

/-- The frame holds the number of records and the records up to `recIdx`. -/
def RxBuffer.Reaches (buf : RxBuffer) (prot : MccProt) (p : Int) (recIdx : Nat) : Prop :=
  buf.Holds p 1 ∧ buf.Holds (p + 6) 2 ∧
    ∀ j ≤ recIdx, buf.Holds (buf.recordAfter prot j (p + 8)) prot.recSize

variable {info : MccPktInfo} {recIdx : Nat}

/-- The record `recIdx` of a report. -/
def RxBuffer.recordOf (buf : RxBuffer) (info : MccPktInfo) (recIdx : Nat) : Int :=
  buf.recordAfter info.prot recIdx (info.p + 8)

theorem hasRecords_version (htype : buf.data info.p = info.prot.recordsType) :
    (info.version (buf.data info.p)).hasRecords = true := by
  rw [htype, MccPktInfo.version]
  cases info.prot <;> rfl

/-- The first `n` sources lie inside when the record with them does. -/
theorem forall_holds_saOffset_iff {r : Int} {n : Nat} (hrec : buf.Holds r prot.recSize) :
    (∀ s < n, buf.Holds (prot.saOffset r s) prot.addrLen) ↔
      buf.Holds r (prot.recSize + prot.addrLen * n) := by
  constructor
  · intro h
    cases n with
    | zero => simpa using hrec
    | succ n =>
        have hlast := (h n (Nat.lt_succ_self n)).2
        rw [MccProt.saOffset] at hlast
        refine ⟨hrec.1, ?_⟩
        rw [Nat.mul_succ]
        push_cast at hlast ⊢
        omega
  · intro h s hs
    have hle : prot.addrLen * s + prot.addrLen ≤ prot.addrLen * n := by
      rw [← Nat.mul_succ]
      exact Nat.mul_le_mul_left _ hs
    rw [MccProt.saOffset]
    refine h.part (by omega) ?_
    push_cast
    omega

variable (htype : buf.data info.p = info.prot.recordsType)
  (hidx : recIdx < (buf.field16 (info.p + 6)).toNat)

include htype

theorem result_recNumGet_records :
    (recNumGet buf info).result = some (buf.field16 (info.p + 6)) := by
  simp [recNumGet, htype]

theorem all_recNumGet_records :
    (recNumGet buf info).All buf.Inside ↔ buf.Holds info.p 1 ∧ buf.Holds (info.p + 6) 2 := by
  simp [recNumGet, htype]

include hidx

theorem result_recGet_records :
    (recGet buf info recIdx).result = some (some (buf.recordOf info recIdx)) := by
  simp [recGet, result_recNumGet_records htype, Nat.not_le.mpr hidx, versionGet,
    hasRecords_version htype, RxBuffer.recordOf]

theorem all_recGet_records :
    (recGet buf info recIdx).All buf.Inside ↔ buf.Reaches info.prot info.p recIdx := by
  simp only [recGet, Traced.all_bind, all_recNumGet_records htype,
    result_recNumGet_records htype, Option.some.injEq, forall_eq', Nat.not_le.mpr hidx,
    if_false, versionGet, all_read8, result_read8, Traced.all_pure, Traced.result_bind,
    Option.bind_some, Traced.result_pure, implies_true, and_true, hasRecords_version htype,
    if_true, all_recWalk, RxBuffer.Reaches]
  tauto

theorem result_mccPktRecGaGet_records :
    ∃ ga, (mccPktRecGaGet buf info recIdx).result = some ga := by
  simp [mccPktRecGaGet, versionGet, hasRecords_version htype, result_recGet_records htype hidx,
    recGaGet]

theorem all_mccPktRecGaGet_records :
    (mccPktRecGaGet buf info recIdx).All buf.Inside ↔ buf.Reaches info.prot info.p recIdx := by
  simp only [mccPktRecGaGet, versionGet, Traced.all_bind, all_read8, result_read8,
    Traced.all_pure, Traced.result_bind, Option.bind_some, Traced.result_pure, implies_true,
    and_true, Option.some.injEq, forall_eq', hasRecords_version htype, if_true,
    all_recGet_records htype hidx, result_recGet_records htype hidx, recGaGet, all_readAddr]
  constructor
  · intro h
    exact h.2.1
  · intro h
    have hrec : buf.Holds (buf.recordOf info recIdx) info.prot.recSize := h.2.2 recIdx le_rfl
    exact ⟨h.1, h, hrec.part (by omega) (by simp only [MccProt.recSize]; push_cast; omega)⟩

theorem result_mccPktRecSaGet {sIdx : Nat}
    (hs : sIdx < (buf.recordAt (buf.recordOf info recIdx)).sNum.toNat) :
    ∃ sa, (mccPktRecSaGet buf info recIdx sIdx).result = some sa := by
  simp [mccPktRecSaGet, versionGet, hasRecords_version htype, result_recGet_records htype hidx,
    recSnumGet, Nat.not_le.mpr hs, recSaGet]

theorem all_mccPktRecSaGet {sIdx : Nat}
    (hs : sIdx < (buf.recordAt (buf.recordOf info recIdx)).sNum.toNat) :
    (mccPktRecSaGet buf info recIdx sIdx).All buf.Inside ↔
      buf.Reaches info.prot info.p recIdx ∧
        buf.Holds (info.prot.saOffset (buf.recordOf info recIdx) sIdx) info.prot.addrLen := by
  simp only [mccPktRecSaGet, versionGet, Traced.all_bind, all_read8, result_read8,
    Traced.all_pure, Traced.result_bind, Option.bind_some, Traced.result_pure, implies_true,
    and_true, Option.some.injEq, forall_eq', hasRecords_version htype, if_true,
    all_recGet_records htype hidx, result_recGet_records htype hidx, recSnumGet,
    all_readRecord, result_readRecord, Nat.not_le.mpr hs, if_false, recSaGet, all_readAddr]
  constructor
  · intro h
    exact ⟨h.2.1, h.2.2.2⟩
  · intro h
    exact ⟨h.1.1, h.1, h.1.2.2 recIdx le_rfl, h.2⟩

omit hidx in
theorem result_recTypeGet_records (r : Int) :
    (recTypeGet buf info (some r)).result = some (buf.recordAt r).type := by
  simp [recTypeGet, versionGet, hasRecords_version htype]

omit hidx in
theorem all_recTypeGet_records (r : Int) : (recTypeGet buf info (some r)).All buf.Inside ↔
      buf.Holds info.p 1 ∧ buf.Holds r info.prot.recSize := by
  simp [recTypeGet, versionGet, hasRecords_version htype]

/-! The loop over the sources of a record. -/

/-- The sources of the record `recIdx` that an index of one byte reaches lie inside. -/
def RxBuffer.SourcesHold (buf : RxBuffer) (info : MccPktInfo) (recIdx : Nat) : Prop :=
  ∀ s < min (buf.recordAt (buf.recordOf info recIdx)).sNum.toNat 256,
    buf.Holds (info.prot.saOffset (buf.recordOf info recIdx) s) info.prot.addrLen

theorem all_sourcesWalk (hreach : buf.Reaches info.prot info.p recIdx)
    (hsources : buf.SourcesHold info recIdx) (turns : Nat) (s : BitVec 8) (sas : List MccIpAddr) :
    (sourcesWalk buf info recIdx (buf.recordAt (buf.recordOf info recIdx)).sNum turns s
      sas).All buf.Inside := by
  induction turns generalizing s sas with
  | zero => exact Traced.all_fail.mpr trivial
  | succ turns ih =>
      rw [sourcesWalk]
      split
      · rename_i hs
        rw [Traced.all_bind, all_mccPktRecSaGet htype hidx hs]
        exact ⟨⟨hreach, hsources _ (lt_min hs s.isLt)⟩, fun sa _ => ih (s + 1) (sas ++ [sa])⟩
      · exact Traced.all_pure.mpr trivial

theorem holds_of_all_sourcesWalk {turns : Nat} {s : BitVec 8} {sas : List MccIpAddr}
    (hall : (sourcesWalk buf info recIdx (buf.recordAt (buf.recordOf info recIdx)).sNum turns s
      sas).All buf.Inside) {k : Nat} (hturns : k < turns)
    (hk : s.toNat + k < min (buf.recordAt (buf.recordOf info recIdx)).sNum.toNat 256) :
    buf.Holds (info.prot.saOffset (buf.recordOf info recIdx) (s.toNat + k))
      info.prot.addrLen := by
  induction turns generalizing s sas k with
  | zero => exact absurd hturns (Nat.not_lt_zero k)
  | succ turns ih =>
      have hs : s.toNat < (buf.recordAt (buf.recordOf info recIdx)).sNum.toNat := by omega
      rw [sourcesWalk, if_pos hs, Traced.all_bind, all_mccPktRecSaGet htype hidx hs] at hall
      cases k with
      | zero => exact hall.1.2
      | succ k =>
          obtain ⟨sa, hsa⟩ := result_mccPktRecSaGet htype hidx hs
          have hnext : (s + 1).toNat = s.toNat + 1 := by
            rw [BitVec.toNat_add]
            exact Nat.mod_eq_of_lt (by change s.toNat + 1 < 256; omega)
          have hsame : s.toNat + (k + 1) = (s + 1).toNat + k := by omega
          rw [hsame] at hk ⊢
          exact ih (hall.2 sa hsa) (by omega) hk

/-- The loop ends when there are fewer sources than an index of one byte counts. -/
theorem exists_result_sourcesWalk {turns : Nat} {s : BitVec 8} (sas : List MccIpAddr)
    (hfew : (buf.recordAt (buf.recordOf info recIdx)).sNum.toNat < 256)
    (hturns : (buf.recordAt (buf.recordOf info recIdx)).sNum.toNat - s.toNat < turns) :
    ∃ sas', (sourcesWalk buf info recIdx (buf.recordAt (buf.recordOf info recIdx)).sNum turns s
      sas).result = some sas' := by
  induction turns generalizing s sas with
  | zero => exact absurd hturns (Nat.not_lt_zero _)
  | succ turns ih =>
      rw [sourcesWalk]
      split
      · rename_i hs
        obtain ⟨sa, hsa⟩ := result_mccPktRecSaGet htype hidx hs
        have hnext : (s + 1).toNat = s.toNat + 1 := by
          rw [BitVec.toNat_add]
          exact Nat.mod_eq_of_lt (by change s.toNat + 1 < 256; omega)
        rw [Traced.result_bind, hsa, Option.bind_some]
        exact ih (sas ++ [sa]) (by omega)
      · exact ⟨sas, rfl⟩

omit hidx htype in
/-- The loop ends only then. -/
theorem sNum_lt_of_result_sourcesWalk {turns : Nat} {s : BitVec 8} {saNum : BitVec 16}
    {sas sas' : List MccIpAddr}
    (hresult : (sourcesWalk buf info recIdx saNum turns s sas).result = some sas') :
    saNum.toNat < 256 := by
  induction turns generalizing s sas with
  | zero => cases hresult
  | succ turns ih =>
      rw [sourcesWalk] at hresult
      split at hresult
      · rw [Traced.result_bind] at hresult
        obtain ⟨sa, _, hrest⟩ := Option.bind_eq_some_iff.mp hresult
        exact ih hrest
      · rename_i hs
        have hlt := s.isLt
        omega

/-! One record after the other. -/

theorem all_mccPktRecRead_iff (turns : Nat) : (mccPktRecRead buf turns info recIdx).All buf.Inside ↔
      buf.Reaches info.prot info.p recIdx ∧ (buf.RecordRead (buf.recordOf info recIdx) →
          (sourcesWalk buf info recIdx (buf.recordAt (buf.recordOf info recIdx)).sNum turns 0
            []).All buf.Inside) := by
  obtain ⟨ga, hga⟩ := result_mccPktRecGaGet_records htype hidx
  simp only [mccPktRecRead, Traced.all_bind, all_mccPktRecGaGet_records htype hidx, hga,
    all_recGet_records htype hidx, result_recGet_records htype hidx, recSnumGet,
    all_readRecord, result_readRecord, Traced.all_pure, Traced.result_bind, Option.bind_some,
    Traced.result_pure, implies_true, and_true, Option.some.injEq, forall_eq',
    all_recTypeGet_records htype, result_recTypeGet_records htype, RxBuffer.RecordRead]
  have hrec : buf.Reaches info.prot info.p recIdx →
      buf.Holds (buf.recordOf info recIdx) info.prot.recSize ∧
        buf.Holds info.p 1 ∧ buf.Holds (buf.recordOf info recIdx) info.prot.recSize :=
    fun h => ⟨h.2.2 recIdx le_rfl, h.1, h.2.2 recIdx le_rfl⟩
  cases hrecType : protRecTypeOf (buf.recordAt (buf.recordOf info recIdx)).type with
  | none => simpa using fun h => hrec h
  | some recType =>
      simp only [Option.some.injEq, exists_eq_left']
      split
      · rename_i hnone
        simpa [hnone] using fun h => hrec h
      · rename_i hsome
        simp only [Traced.all_bind, Traced.all_pure, implies_true, and_true]
        constructor
        · intro h
          exact ⟨h.1, fun _ => h.2.2.2.2⟩
        · intro h
          exact ⟨h.1, h.1, (hrec h.1).1, (hrec h.1).2, h.2 hsome⟩

theorem exists_result_mccPktRecRead (hread : buf.RecordRead (buf.recordOf info recIdx))
    (hfew : (buf.recordAt (buf.recordOf info recIdx)).sNum.toNat < 256) :
    ∃ rec, (mccPktRecRead buf 256 info recIdx).result = some rec := by
  obtain ⟨ga, hga⟩ := result_mccPktRecGaGet_records htype hidx
  obtain ⟨recType, hrecType, hsome⟩ := hread
  have hturns : (buf.recordAt (buf.recordOf info recIdx)).sNum.toNat - (0 : BitVec 8).toNat < 256 :=
    (Nat.sub_le _ _).trans_lt hfew
  obtain ⟨sas, hsas⟩ := exists_result_sourcesWalk htype hidx [] hfew hturns
  simp only [mccPktRecRead, Traced.result_bind, hga, result_recGet_records htype hidx,
    recSnumGet, result_readRecord, Option.bind_some, Traced.result_pure,
    result_recTypeGet_records htype, hrecType, if_neg hsome, hsas]
  exact ⟨_, rfl⟩

/-- A record that is decoded is one that the snooper gets past. -/
theorem recordRead_of_result {turns : Nat} {rec : MccPktRec}
    (hresult : (mccPktRecRead buf turns info recIdx).result = some rec) :
    buf.RecordRead (buf.recordOf info recIdx) ∧
      (buf.recordAt (buf.recordOf info recIdx)).sNum.toNat < 256 := by
  obtain ⟨ga, hga⟩ := result_mccPktRecGaGet_records htype hidx
  simp only [mccPktRecRead, Traced.result_bind, hga, result_recGet_records htype hidx,
    recSnumGet, result_readRecord, Option.bind_some, Traced.result_pure,
    result_recTypeGet_records htype] at hresult
  cases hrecType : protRecTypeOf (buf.recordAt (buf.recordOf info recIdx)).type with
  | none =>
      rw [hrecType] at hresult
      cases hresult
  | some recType =>
      rw [hrecType] at hresult
      dsimp only at hresult
      split at hresult
      · cases hresult
      · rename_i hsome
        rw [Traced.result_bind] at hresult
        obtain ⟨sas, hsas, _⟩ := Option.bind_eq_some_iff.mp hresult
        exact ⟨⟨recType, hrecType, hsome⟩, sNum_lt_of_result_sourcesWalk hsas⟩

omit hidx in
/-- The records that the snooper gets to lie inside if they fit. -/
theorem all_recordsRead {num : Nat} (hnum : num = (buf.field16 (info.p + 6)).toNat)
    (hhead : buf.Holds info.p 8) (hfit : buf.RecordsFit info.prot (info.p + 8) num)
    (env : MccPktEnv) (left first : Nat) (hle : first + left ≤ num)
    (hdone : ∀ j < first, buf.RecordRead (buf.recordOf info j) ∧
      (buf.recordAt (buf.recordOf info j)).sNum.toNat < 256) :
    (recordsRead env buf info left first).All buf.Inside := by
  induction left generalizing first with
  | zero => exact Traced.all_pure.mpr trivial
  | succ left ih =>
      have hfirst : first < (buf.field16 (info.p + 6)).toNat := by omega
      have hrecord : buf.RecordFits info.prot (buf.recordOf info first) :=
        hfit first (by omega) hdone
      have hreach : buf.Reaches info.prot info.p first := by
        refine ⟨hhead.part le_rfl (by push_cast; omega),
          hhead.part (by omega) (by push_cast; omega), ?_⟩
        intro j hj
        exact (hfit j (by omega) fun j' hj' => hdone j' (by omega)).1
      have hread : (mccPktRecRead buf env.sourceTurns info first).All buf.Inside :=
        (all_mccPktRecRead_iff htype hfirst _).mpr ⟨hreach, fun hread =>
          all_sourcesWalk htype hfirst hreach
            ((forall_holds_saOffset_iff hrecord.1).mpr (hrecord.2 hread)) _ _ _⟩
      rw [recordsRead, Traced.all_bind]
      refine ⟨hread, ?_⟩
      intro rec hrec
      split
      · exact Traced.all_fail.mpr trivial
      · have hnext : ∀ j < first + 1, buf.RecordRead (buf.recordOf info j) ∧
            (buf.recordAt (buf.recordOf info j)).sNum.toNat < 256 := by
          intro j hj
          cases Nat.lt_succ_iff_lt_or_eq.mp hj with
          | inl hlt => exact hdone j hlt
          | inr heq => exact heq ▸ recordRead_of_result htype hfirst hrec
        rw [Traced.all_bind]
        exact ⟨ih (first + 1) (by omega) hnext, fun _ _ => Traced.all_pure.mpr trivial⟩

/-- A state in which a packet is decoded to its end. -/
def MccPktEnv.full (extTurns : Nat) : MccPktEnv where
  resetting := false
  limited := false
  fwdFails := false
  gmiNeeded := true
  recFails _ := false
  extTurns := extTurns
  sourceTurns := 256

omit hidx in
theorem recordFits_of_all_mccPktRecRead {first : Nat}
    (hfirst : first < (buf.field16 (info.p + 6)).toNat)
    (hall : (mccPktRecRead buf 256 info first).All buf.Inside) :
    buf.RecordFits info.prot (buf.recordOf info first) := by
  obtain ⟨hreach, hsources⟩ := (all_mccPktRecRead_iff htype hfirst 256).mp hall
  have hrec : buf.Holds (buf.recordOf info first) info.prot.recSize := hreach.2.2 first le_rfl
  refine ⟨hrec, ?_⟩
  intro hread
  refine (forall_holds_saOffset_iff hrec).mp ?_
  intro s hs
  have hzero : (0 : BitVec 8).toNat + s = s := Nat.zero_add s
  have hsource := holds_of_all_sourcesWalk htype hfirst (hsources hread)
    (hs.trans_le (min_le_right _ _)) (hzero.symm ▸ hs)
  rwa [hzero] at hsource

omit hidx in
/-- The records that the snooper gets to fit if its reads lie inside. -/
theorem recordFits_of_all_recordsRead {extTurns left first : Nat}
    (hle : first + left ≤ (buf.field16 (info.p + 6)).toNat)
    (hall : (recordsRead (.full extTurns) buf info left first).All buf.Inside) {i : Nat}
    (hfrom : first ≤ i) (hto : i < first + left)
    (hdone : ∀ j < i, buf.RecordRead (buf.recordOf info j) ∧
      (buf.recordAt (buf.recordOf info j)).sNum.toNat < 256) :
    buf.RecordFits info.prot (buf.recordOf info i) := by
  induction left generalizing first with
  | zero => omega
  | succ left ih =>
      have hfirst : first < (buf.field16 (info.p + 6)).toNat := by omega
      rw [recordsRead, Traced.all_bind] at hall
      by_cases heq : i = first
      · rw [heq]
        exact recordFits_of_all_mccPktRecRead htype hfirst hall.1
      · obtain ⟨hread, hfew⟩ := hdone first (by omega)
        obtain ⟨rec, hrec⟩ := exists_result_mccPktRecRead htype hfirst hread hfew
        have hrest := hall.2 rec hrec
        rw [if_neg (by exact Bool.false_ne_true), Traced.all_bind] at hrest
        exact ih (by omega) hrest.1 (by omega) (by omega)

end

/-! ## Messages -/

section

variable {buf : RxBuffer} {info : MccPktInfo}

theorem isSingle_version
    (htype : buf.data info.p = info.prot.reportType ∨ buf.data info.p = info.prot.leaveType) :
    (info.version (buf.data info.p)).isSingle = true ∧
      (info.version (buf.data info.p)).hasRecords = false := by
  rw [MccPktInfo.version]
  cases hprot : info.prot <;> rw [hprot] at htype <;> cases htype with
  | inl h => rw [h]; exact ⟨rfl, rfl⟩
  | inr h => rw [h]; exact ⟨rfl, rfl⟩

theorem recNumGet_single
    (htype : buf.data info.p = info.prot.reportType ∨ buf.data info.p = info.prot.leaveType) :
    (recNumGet buf info).result = some 1 ∧
      ((recNumGet buf info).All buf.Inside ↔ buf.Holds info.p 1) := by
  have hother : buf.data info.p ≠ info.prot.recordsType := by
    cases hprot : info.prot <;> rw [hprot] at htype <;> cases htype with
    | inl h => rw [h]; decide
    | inr h => rw [h]; decide
  constructor
  · simp [recNumGet, hother, htype]
  · simp [recNumGet, hother, htype]

theorem all_sourcesWalk_zero (recIdx turns : Nat) (sas : List MccIpAddr) :
    (sourcesWalk buf info recIdx 0 turns 0 sas).All buf.Inside := by
  cases turns with
  | zero => exact Traced.all_fail.mpr trivial
  | succ turns => exact Traced.all_pure.mpr trivial

/-- A message about one group is read up to its group address. -/
theorem all_mccPktRecRead_single
    (htype : buf.data info.p = info.prot.reportType ∨ buf.data info.p = info.prot.leaveType)
    (turns : Nat) : (mccPktRecRead buf turns info 0).All buf.Inside ↔
      buf.Holds info.p 1 ∧ buf.Holds (info.p + info.prot.gaOffset) info.prot.addrLen := by
  obtain ⟨hsingle, hrecords⟩ := isSingle_version htype
  obtain ⟨hnum, hallNum⟩ := recNumGet_single htype
  have hversion : (versionGet buf info).result = some (info.version (buf.data info.p)) := rfl
  have hallVersion : (versionGet buf info).All buf.Inside ↔ buf.Holds info.p 1 := by
    simp [versionGet]
  have hrec : (recGet buf info 0).result = some none := by
    simp [recGet, hnum, hversion, hrecords]
  have hallRec : (recGet buf info 0).All buf.Inside ↔ buf.Holds info.p 1 := by
    simp [recGet, hnum, hallNum, hversion, hallVersion, hrecords]
  have hga : (mccPktRecGaGet buf info 0).result =
      some (buf.addrAt (info.p + info.prot.gaOffset) info.prot.addrLen) := by
    simp [mccPktRecGaGet, hversion, hrecords, hsingle, gaGet]
  have hallGa : (mccPktRecGaGet buf info 0).All buf.Inside ↔
      buf.Holds info.p 1 ∧ buf.Holds (info.p + info.prot.gaOffset) info.prot.addrLen := by
    simp [mccPktRecGaGet, hversion, hallVersion, hrecords, hsingle, gaGet]
  have hallType : (recTypeGet buf info none).All buf.Inside ↔ buf.Holds info.p 1 := by
    simp only [recTypeGet, Traced.all_bind, hallVersion, hversion, Option.some.injEq,
      forall_eq', hrecords, hsingle, Bool.false_eq_true, if_false, if_true, all_read8,
      result_read8]
    constructor
    · intro h
      exact h.1
    · intro h
      refine ⟨h, h, ?_⟩
      split
      · exact Traced.all_pure.mpr trivial
      · split <;> exact Traced.all_pure.mpr trivial
  simp only [mccPktRecRead, Traced.all_bind, hallGa, hga, hallRec, hrec, recSnumGet,
    Traced.all_pure, Traced.result_pure, Option.some.injEq, forall_eq', hallType, true_and]
  constructor
  · intro h
    exact h.1
  · intro h
    refine ⟨h, h.1, h.1, ?_⟩
    intro protRecType _
    split
    · exact Traced.all_fail.mpr trivial
    · split
      · exact Traced.all_fail.mpr trivial
      · rw [Traced.all_bind]
        exact ⟨all_sourcesWalk_zero 0 turns [], fun _ _ => Traced.all_pure.mpr trivial⟩

/-- A query is read up to the end of its header. -/
theorem all_mccQryRead (env : MccPktEnv) (hhead : buf.Holds info.p info.prot.hdrSize) :
    (mccQryRead env buf info).All buf.Inside := by
  have htype : buf.Holds info.p 1 := by
    refine hhead.part le_rfl ?_
    cases info.prot <;> simp [MccProt.hdrSize]
  have hga : buf.Holds (info.p + info.prot.gaOffset) info.prot.addrLen := by
    refine hhead.part (by omega) ?_
    cases info.prot <;> simp [MccProt.gaOffset, MccProt.addrLen, MccProt.hdrSize] <;> omega
  have hmrt : (maxRespDelayGet buf info).All buf.Inside := by
    rw [maxRespDelayGet]
    cases hprot : info.prot <;> exact all_readHdr.mpr hhead
  have hqrv : (queryQrvGet buf info).All buf.Inside := all_readHdr.mpr hhead
  have hqi : (mccPktQiMsGet buf info).All buf.Inside := all_readHdr.mpr hhead
  have hgmi : (mccPktGmiGet buf info).All buf.Inside := by
    rw [mccPktGmiGet, Traced.all_bind]
    refine ⟨by simpa [versionGet] using htype, ?_⟩
    intro version _
    rw [Traced.all_bind]
    refine ⟨hmrt, ?_⟩
    intro mrt _
    split
    · exact Traced.all_pure.mpr trivial
    · split
      · simp [hqrv, hqi]
      · exact Traced.all_pure.mpr trivial
  rw [mccQryRead, Traced.all_bind]
  refine ⟨all_readAddr.mpr hga, ?_⟩
  intro _ _
  split
  · exact Traced.all_fail.mpr trivial
  · rw [Traced.all_bind]
    refine ⟨all_readAddr.mpr hga, ?_⟩
    intro _ _
    split
    · simp [hgmi]
    · exact Traced.all_pure.mpr trivial

/-- A query that is read to its end is read up to the end of its header. -/
theorem holds_of_all_mccQryRead {extTurns : Nat}
    (hall : (mccQryRead (.full extTurns) buf info).All buf.Inside) :
    buf.Holds info.p info.prot.hdrSize := by
  have hgmi : (mccPktGmiGet buf info).All buf.Inside := by
    rw [mccQryRead, Traced.all_bind] at hall
    have hsecond := hall.2 _ rfl
    rw [if_neg (by exact Bool.false_ne_true), Traced.all_bind] at hsecond
    have hthird := hsecond.2 _ rfl
    rw [if_pos (by rfl), Traced.all_bind] at hthird
    exact hthird.1
  rw [mccPktGmiGet, Traced.all_bind] at hgmi
  have hmrt := hgmi.2 _ rfl
  rw [Traced.all_bind, maxRespDelayGet] at hmrt
  cases hprot : info.prot <;> rw [hprot] at hmrt
  · exact hprot ▸ all_readHdr.mp hmrt.1
  · exact hprot ▸ all_readHdr.mp hmrt.1

theorem mccPktProcess_query (htype : buf.data info.p = info.prot.queryType)
    (hpkt : pktTypeOf (buf.data info.p) = some info.pktType) (env : MccPktEnv) :
    mccPktProcess env buf info = (do
      let _ ← mccQryRead env buf info
      pure []) := by
  rw [htype] at hpkt
  rw [mccPktProcess]
  cases hprot : info.prot <;> rw [hprot] at hpkt <;> cases hpkt' : info.pktType <;>
    rw [hpkt'] at hpkt <;> first | rfl | cases hpkt

theorem mccPktProcess_report
    (htype : buf.data info.p = info.prot.reportType ∨ buf.data info.p = info.prot.leaveType ∨
      buf.data info.p = info.prot.recordsType)
    (hpkt : pktTypeOf (buf.data info.p) = some info.pktType) (env : MccPktEnv) :
    mccPktProcess env buf info = mccRepRead env buf info := by
  rw [mccPktProcess]
  have hother : info.pktType ≠ .igmpQuery ∧ info.pktType ≠ .mldQuery ∧
      info.pktType ≠ .igmpV1Report := by
    cases hprot : info.prot <;> rw [hprot] at htype <;>
      obtain htype | htype | htype := htype <;> rw [htype] at hpkt <;>
        rw [← Option.some.inj hpkt] <;> decide
  cases hpkt' : info.pktType <;> simp_all

theorem mccRepRead_eq {env : MccPktEnv} (hlimited : env.limited = false) :
    mccRepRead env buf info = (do
      let recNum ← recNumGet buf info
      recordsRead env buf info recNum.toNat 0) := by
  rw [mccRepRead, hlimited]
  rfl

theorem supports_iff {prot : MccProt} {upstream : Bool} {type : BitVec 8} :
    prot.supports upstream type = true ↔
      type = prot.queryType ∧ upstream = false ∨
        (type = prot.reportType ∨ type = prot.leaveType ∨ type = prot.recordsType) ∧
          upstream = true := by
  rw [MccProt.supports]
  by_cases hquery : type = prot.queryType
  · rw [if_pos hquery, hquery]
    cases prot <;> cases upstream <;> decide
  · rw [if_neg hquery]
    by_cases hreport : type = prot.reportType ∨ type = prot.leaveType ∨ type = prot.recordsType
    · simp [hquery, hreport]
    · simp [hquery, hreport]

theorem all_mccRepRead_single
    (htype : buf.data info.p = info.prot.reportType ∨ buf.data info.p = info.prot.leaveType)
    (hga : buf.Holds info.p (info.prot.gaOffset + info.prot.addrLen)) (env : MccPktEnv) :
    (mccRepRead env buf info).All buf.Inside := by
  have hfirst : buf.Holds info.p 1 := by
    refine hga.part le_rfl ?_
    cases info.prot <;> simp [MccProt.gaOffset, MccProt.addrLen]
  have haddr : buf.Holds (info.p + info.prot.gaOffset) info.prot.addrLen :=
    hga.part (by omega) (by push_cast; omega)
  obtain ⟨hnum, hallNum⟩ := recNumGet_single htype
  cases hlimited : env.limited with
  | true =>
      rw [mccRepRead, hlimited]
      exact Traced.all_fail.mpr trivial
  | false =>
      rw [mccRepRead_eq hlimited, Traced.all_bind, hallNum, hnum]
      refine ⟨hfirst, ?_⟩
      intro recNum hrecNum
      rw [← Option.some.inj hrecNum]
      change (recordsRead env buf info 1 0).All buf.Inside
      rw [recordsRead, Traced.all_bind, all_mccPktRecRead_single htype]
      refine ⟨⟨hfirst, haddr⟩, ?_⟩
      intro rec _
      split
      · exact Traced.all_fail.mpr trivial
      · rw [recordsRead]
        simp

theorem holds_of_all_mccRepRead_single
    (htype : buf.data info.p = info.prot.reportType ∨ buf.data info.p = info.prot.leaveType)
    {extTurns : Nat} (hall : (mccRepRead (.full extTurns) buf info).All buf.Inside) :
    buf.Holds info.p (info.prot.gaOffset + info.prot.addrLen) := by
  obtain ⟨hnum, hallNum⟩ := recNumGet_single htype
  rw [mccRepRead_eq rfl, Traced.all_bind, hallNum, hnum] at hall
  have hrecords : (recordsRead (.full extTurns) buf info 1 0).All buf.Inside := hall.2 1 rfl
  rw [recordsRead, Traced.all_bind, all_mccPktRecRead_single htype] at hrecords
  obtain ⟨hstart, hend⟩ := hrecords.1
  exact ⟨hstart.1, by have hto := hend.2; push_cast; omega⟩

theorem all_mccRepRead_records (htype : buf.data info.p = info.prot.recordsType)
    (hhead : buf.Holds info.p 8)
    (hfit : buf.RecordsFit info.prot (info.p + 8) (buf.field16 (info.p + 6)).toNat)
    (env : MccPktEnv) : (mccRepRead env buf info).All buf.Inside := by
  cases hlimited : env.limited with
  | true =>
      rw [mccRepRead, hlimited]
      exact Traced.all_fail.mpr trivial
  | false =>
      rw [mccRepRead_eq hlimited, Traced.all_bind, all_recNumGet_records htype,
        result_recNumGet_records htype]
      refine ⟨⟨hhead.part le_rfl (by push_cast; omega),
        hhead.part (by omega) (by push_cast; omega)⟩, ?_⟩
      intro recNum hrecNum
      rw [← Option.some.inj hrecNum]
      exact all_recordsRead htype rfl hhead hfit env _ 0 (by omega)
        fun j hj => absurd hj (Nat.not_lt_zero j)

theorem holds_of_all_mccRepRead_records (htype : buf.data info.p = info.prot.recordsType)
    {extTurns : Nat} (hall : (mccRepRead (.full extTurns) buf info).All buf.Inside) :
    buf.Holds info.p 8 ∧
      buf.RecordsFit info.prot (info.p + 8) (buf.field16 (info.p + 6)).toNat := by
  rw [mccRepRead_eq rfl, Traced.all_bind, all_recNumGet_records htype,
    result_recNumGet_records htype] at hall
  obtain ⟨hstart, hend⟩ := hall.1
  constructor
  · exact ⟨hstart.1, by have hto := hend.2; push_cast at hto ⊢; omega⟩
  · intro i hi hdone
    exact recordFits_of_all_recordsRead htype (by omega) (hall.2 _ rfl) (Nat.zero_le i)
      (by omega) hdone

theorem all_mccPktProcess (hfits : buf.MessageFits info.prot info.llinfo.dirUs info.p)
    (hpkt : pktTypeOf (buf.data info.p) = some info.pktType)
    (hsupports : info.prot.supports info.llinfo.dirUs (buf.data info.p) = true)
    (env : MccPktEnv) : (mccPktProcess env buf info).All buf.Inside := by
  obtain ⟨htype, hdir⟩ | ⟨htype, hdir⟩ := supports_iff.mp hsupports
  · rw [mccPktProcess_query htype hpkt, Traced.all_bind]
    exact ⟨all_mccQryRead env (hfits.query htype hdir), fun _ _ => Traced.all_pure.mpr trivial⟩
  · rw [mccPktProcess_report htype hpkt]
    obtain htype | htype | htype := htype
    · exact all_mccRepRead_single (.inl htype) (hfits.single (.inl htype) hdir) env
    · exact all_mccRepRead_single (.inr htype) (hfits.single (.inr htype) hdir) env
    · exact all_mccRepRead_records htype (hfits.header htype hdir) (hfits.records htype hdir) env

/-- A message fits if decoding it to its end reads inside the received length. -/
theorem messageFits_of_all {extTurns : Nat}
    (hpkt : pktTypeOf (buf.data info.p) = some info.pktType) (hfirst : buf.Holds info.p 1)
    (hall : info.prot.supports info.llinfo.dirUs (buf.data info.p) = true →
      (mccPktProcess (.full extTurns) buf info).All buf.Inside) :
    buf.MessageFits info.prot info.llinfo.dirUs info.p := by
  have hreport (htype : buf.data info.p = info.prot.reportType ∨
      buf.data info.p = info.prot.leaveType ∨ buf.data info.p = info.prot.recordsType)
      (hdir : info.llinfo.dirUs = true) :
      (mccRepRead (.full extTurns) buf info).All buf.Inside := by
    have hprocess := hall (supports_iff.mpr (.inr ⟨htype, hdir⟩))
    rwa [mccPktProcess_report htype hpkt] at hprocess
  constructor
  · exact hfirst
  · intro htype hdir
    have hprocess := hall (supports_iff.mpr (.inl ⟨htype, hdir⟩))
    rw [mccPktProcess_query htype hpkt, Traced.all_bind] at hprocess
    exact holds_of_all_mccQryRead hprocess.1
  · intro htype hdir
    exact holds_of_all_mccRepRead_single htype (hreport (by tauto) hdir)
  · intro htype hdir
    exact (holds_of_all_mccRepRead_records htype (hreport (.inr (.inr htype)) hdir)).1
  · intro htype hdir
    exact (holds_of_all_mccRepRead_records htype (hreport (.inr (.inr htype)) hdir)).2

end

/-! ## Headers -/

section

variable {buf : RxBuffer} {upstream : Bool}

/-- A message of no known type is looked at no further. -/
theorem RxBuffer.MessageFits.of_unknown {prot : MccProt} {p : Int} (htype : buf.Holds p 1)
    (hunknown : pktTypeOf (buf.data p) = none) : buf.MessageFits prot upstream p := by
  have hquery : buf.data p ≠ prot.queryType := by
    intro h
    rw [h] at hunknown
    cases prot <;> cases hunknown
  have hreport : buf.data p ≠ prot.reportType := by
    intro h
    rw [h] at hunknown
    cases prot <;> cases hunknown
  have hleave : buf.data p ≠ prot.leaveType := by
    intro h
    rw [h] at hunknown
    cases prot <;> cases hunknown
  have hrecords : buf.data p ≠ prot.recordsType := by
    intro h
    rw [h] at hunknown
    cases prot <;> cases hunknown
  exact
    { type := htype
      query := fun h => absurd h hquery
      single := fun h => absurd h (not_or.mpr ⟨hreport, hleave⟩)
      header := fun h => absurd h hrecords
      records := fun h => absurd h hrecords }

def RxBuffer.Finds (buf : RxBuffer) (llinfo : MccPktLlInfo) (x : Traced Access MccPktInfo) : Prop :=
  x.Yields buf.Inside fun info => buf.MessageFits info.prot llinfo.dirUs info.p

variable {llinfo : MccPktLlInfo}

theorem finds_typeGet {p : Int} {info : MccPktType → MccPktInfo} {prot : MccProt}
    (hinfo : ∀ type, (info type).p = p ∧ (info type).prot = prot) :
    buf.Finds llinfo (do
      let pktType ← mccPktTypeGet buf p
      pure (info pktType)) ↔ buf.MessageFits prot llinfo.dirUs p := by
  rw [RxBuffer.Finds, Traced.yields_bind, mccPktTypeGet, Traced.yields_bind, RxBuffer.read8,
    Traced.yields_emit]
  cases hpkt : pktTypeOf (buf.data p) with
  | none =>
      simp only [Traced.yields_fail, and_true]
      exact ⟨fun h => .of_unknown h hpkt, fun h => h.type⟩
  | some type =>
      obtain ⟨hp, hprot⟩ := hinfo type
      simp only [Traced.yields_pure, hp, hprot]
      exact ⟨fun h => h.2, fun h => ⟨h.type, h⟩⟩

theorem finds_mccPktIpv4Update {off : Int} (hhead : buf.Holds off ipHdrSize) :
    buf.Finds llinfo (mccPktIpv4Update buf llinfo off) ↔ buf.Ipv4Fits llinfo.dirUs off := by
  have hstart : buf.Holds off 0 := hhead.part le_rfl (by push_cast; omega)
  have hmessage : buf.Finds llinfo (do
      let pktType ← mccPktTypeGet buf (off + (buf.ipHdrAt off).len)
      pure
        { ipv4 := buf.ipHdrAt off
          ipv6 := .zero
          prot := .igmp
          p := off + (buf.ipHdrAt off).len
          len := (buf.ipHdrAt off).totLen.setWidth 32 - (buf.ipHdrAt off).ihl.setWidth 32
          pktType := pktType
          llinfo := llinfo }) ↔
      buf.MessageFits .igmp llinfo.dirUs (off + (buf.ipHdrAt off).len) :=
    finds_typeGet fun _ => ⟨rfl, rfl⟩
  rw [RxBuffer.Finds, mccPktIpv4Update, Traced.yields_bind, readIpHdr, Traced.yields_emit,
    Traced.yields_bind, Traced.Yields, all_mccPktIpv4CsumGet _ hstart]
  constructor
  · intro h
    obtain ⟨_, hoptions, hrest⟩ := h
    refine ⟨hoptions, ?_⟩
    intro hcsum hprotocol
    have hfound := hrest 0 hcsum
    rw [if_pos rfl, if_pos hprotocol] at hfound
    exact hmessage.mp hfound
  · intro h
    refine ⟨hhead, h.options, ?_⟩
    intro csum hcsum
    split
    · rename_i hzero
      split
      · rename_i hprotocol
        exact hmessage.mpr (h.message (hzero ▸ hcsum) hprotocol)
      · exact Traced.yields_fail.mpr trivial
    · exact Traced.yields_fail.mpr trivial

/-! The extension headers of IPv6. -/

theorem RxBuffer.ChainFits.next {nextHdr : BitVec 8} {p : Int}
    (h : buf.ChainFits upstream nextHdr p) (hp : p < extHdrLimit)
    (hext : nextHdr = mccIpProtoIpv6Route ∨ nextHdr = mccIpProtoIpv6Opts) :
    buf.ChainFits upstream (buf.ip6ExtAt p).nxt (p + (buf.ip6ExtAt p).optHdrLen.toNat) := by
  intro k nextHdr' p' hafter
  refine h (k + 1) nextHdr' p' ?_
  rw [RxBuffer.extHdrAfter, RxBuffer.extHdrNext, if_pos ⟨hp, hext⟩]
  exact hafter

/-- The walk over a chain that fits reads inside, and ends at a message that fits. -/
theorem yields_extHdrWalk (turns : Nat) {nextHdr : BitVec 8} {p : Int} (len : BitVec 32)
    (h : buf.ChainFits upstream nextHdr p) :
    (extHdrWalk buf turns nextHdr p len).Yields buf.Inside fun mld =>
      buf.MessageFits .mld upstream mld.1 := by
  induction turns generalizing nextHdr p len with
  | zero => exact Traced.yields_fail.mpr trivial
  | succ turns ih =>
      rw [extHdrWalk]
      split
      · rename_i hp
        have hhere := h 0 nextHdr p rfl hp
        split
        · rename_i hext
          rw [Traced.yields_bind, readIp6Ext, Traced.yields_emit]
          exact ⟨hhere.1 hext, ih _ (h.next hp hext)⟩
        · split
          · rename_i hicmp
            exact Traced.yields_pure.mpr (hhere.2 hicmp)
          · exact Traced.yields_fail.mpr trivial
      · exact Traced.yields_fail.mpr trivial

/-- The chain fits if the walk over it, however long, reads inside and ends at a message that
fits. -/
theorem chainFits_of_yields {nextHdr : BitVec 8} {p : Int} {len : BitVec 32}
    (h : ∀ turns, (extHdrWalk buf turns nextHdr p len).Yields buf.Inside fun mld =>
      buf.MessageFits .mld upstream mld.1) : buf.ChainFits upstream nextHdr p := by
  intro k
  induction k generalizing nextHdr p len with
  | zero =>
      intro nextHdr' p' hafter hp
      obtain ⟨rfl, rfl⟩ := Prod.mk.inj (Option.some.inj hafter)
      have hwalk := h 1
      rw [extHdrWalk, if_pos hp] at hwalk
      constructor
      · intro hext
        rw [if_pos hext, Traced.yields_bind, readIp6Ext, Traced.yields_emit] at hwalk
        exact hwalk.1
      · intro hicmp
        have hother : ¬(nextHdr = mccIpProtoIpv6Route ∨ nextHdr = mccIpProtoIpv6Opts) := by
          rw [hicmp]
          decide
        rw [if_neg hother, if_pos hicmp, Traced.yields_pure] at hwalk
        exact hwalk
  | succ k ih =>
      intro nextHdr' p' hafter
      rw [RxBuffer.extHdrAfter, RxBuffer.extHdrNext] at hafter
      split at hafter
      · rename_i hext
        have hrest : ∀ turns, (extHdrWalk buf turns (buf.ip6ExtAt p).nxt
            (p + (buf.ip6ExtAt p).optHdrLen.toNat)
            (len - (buf.ip6ExtAt p).optHdrLen.setWidth 32)).Yields buf.Inside fun mld =>
              buf.MessageFits .mld upstream mld.1 := by
          intro turns
          have hwalk := h (turns + 1)
          rw [extHdrWalk, if_pos hext.1, if_pos hext.2, Traced.yields_bind, readIp6Ext,
            Traced.yields_emit] at hwalk
          exact hwalk.2
        exact ih hrest nextHdr' p' hafter
      · cases hafter

theorem finds_mccPktIpv6Update_iff {off : Int} (turns : Nat) :
    buf.Finds llinfo (mccPktIpv6Update buf turns llinfo off) ↔
      buf.Holds off ip6HdrSize ∧
        (mldHdrFind buf turns (buf.ip6HdrAt off) (off + ip6HdrSize)).Yields buf.Inside
          fun mld => buf.MessageFits .mld llinfo.dirUs mld.1 := by
  rw [RxBuffer.Finds, mccPktIpv6Update, Traced.yields_bind, readIp6Hdr, Traced.yields_emit,
    Traced.yields_bind]
  refine and_congr Iff.rfl (Traced.yields_congr ?_)
  intro mld
  exact finds_typeGet fun _ => ⟨rfl, rfl⟩

def RxBuffer.hopByHopLen (buf : RxBuffer) (ipv6 : Ip6Hdr) (p : Int) : BitVec 32 :=
  ipv6.plen.setWidth 32 - (buf.ip6ExtAt p).optHdrLen.setWidth 32

theorem yields_mldHdrFind_hopByHop {ipv6 : Ip6Hdr} {p : Int} {Q : Int × BitVec 32 → Prop}
    (hnxt : ipv6.nxt = mccIpProtoIpv6HopByHop) (turns : Nat) :
    (mldHdrFind buf turns ipv6 p).Yields buf.Inside Q ↔
      buf.Holds (p + 2) 4 ∧ buf.Holds p 2 ∧ (if buf.field32 (p + 2) = mccTlvMld then
          pure (buf.hopByHopEnd p, buf.hopByHopLen ipv6 p)
        else
          extHdrWalk buf turns (buf.ip6ExtAt p).nxt (buf.hopByHopEnd p)
            (buf.hopByHopLen ipv6 p)).Yields buf.Inside Q := by
  rw [mldHdrFind, if_pos hnxt, Traced.yields_bind, Traced.yields_emit, Traced.yields_bind,
    readIp6Ext, Traced.yields_emit]
  rfl

/-- An IPv6 packet is searched inside the received length, however long the walk over its
extension headers, exactly when it fits. -/
theorem finds_mccPktIpv6Update {off : Int} :
    (∀ turns, buf.Finds llinfo (mccPktIpv6Update buf turns llinfo off)) ↔
      buf.Ipv6Fits llinfo.dirUs off := by
  constructor
  · intro h
    have hfind := fun turns => (finds_mccPktIpv6Update_iff turns).mp (h turns)
    have hhop (hnxt : (buf.ip6HdrAt off).nxt = mccIpProtoIpv6HopByHop) (turns : Nat) :=
      (yields_mldHdrFind_hopByHop hnxt turns).mp (hfind turns).2
    constructor
    · exact (hfind 0).1
    · intro hnxt
      obtain ⟨htlv, hext, _⟩ := hhop hnxt 0
      exact ⟨hext.1, by have hto := htlv.2; push_cast at hto ⊢; omega⟩
    · intro hnxt htlv
      have hmessage := (hhop hnxt 0).2.2
      rw [if_pos htlv, Traced.yields_pure] at hmessage
      exact hmessage
    · intro hnxt htlv
      have hwalk := fun turns => (hhop hnxt turns).2.2
      simp only [if_neg htlv] at hwalk
      exact chainFits_of_yields hwalk
    · intro hnxt
      have hwalk := fun turns => (hfind turns).2
      simp only [mldHdrFind, if_neg hnxt] at hwalk
      exact chainFits_of_yields hwalk
  · intro h turns
    refine (finds_mccPktIpv6Update_iff turns).mpr ⟨h.header, ?_⟩
    by_cases hnxt : (buf.ip6HdrAt off).nxt = mccIpProtoIpv6HopByHop
    · rw [yields_mldHdrFind_hopByHop hnxt]
      have hhop := h.hopByHop hnxt
      refine ⟨hhop.part (by omega) (by push_cast; omega),
        hhop.part le_rfl (by push_cast; omega), ?_⟩
      split
      · rename_i htlv
        exact Traced.yields_pure.mpr (h.option hnxt htlv)
      · rename_i htlv
        exact yields_extHdrWalk turns _ (h.rest hnxt htlv)
    · rw [mldHdrFind, if_neg hnxt]
      exact yields_extHdrWalk turns _ (h.chain hnxt)

/-! ## Frames -/

/-- One run of `mcc_pkt_info_update`. -/
theorem finds_mccPktInfoUpdate_iff (hoff : (llinfo.offsetIph.toNat : Int) = buf.offsetIph)
    (turns : Nat) :
    buf.Finds llinfo (mccPktInfoUpdate buf turns llinfo) ↔
      buf.Holds (buf.offsetIph - 2) 2 ∧ (buf.field16 (buf.offsetIph - 2) ≠ mccPppoeSessionStage →
          buf.Holds buf.offsetIph ipHdrSize ∧ ((buf.ipHdrAt buf.offsetIph).version = 4 →
              buf.Finds llinfo (mccPktIpv4Update buf llinfo buf.offsetIph)) ∧
            ((buf.ipHdrAt buf.offsetIph).version = 6 →
              buf.Finds llinfo (mccPktIpv6Update buf turns llinfo buf.offsetIph))) := by
  rw [RxBuffer.Finds, mccPktInfoUpdate, hoff, Traced.yields_bind, RxBuffer.read16,
    Traced.yields_emit]
  refine and_congr Iff.rfl ?_
  by_cases hpppoe : buf.field16 (buf.offsetIph - 2) = mccPppoeSessionStage
  · rw [if_pos hpppoe, Traced.yields_fail]
    exact ⟨fun _ hother => absurd hpppoe hother, fun _ => trivial⟩
  · rw [if_neg hpppoe, Traced.yields_bind, readIpHdr, Traced.yields_emit,
      forall_prop_of_true hpppoe]
    refine and_congr Iff.rfl ?_
    by_cases hfour : (buf.ipHdrAt buf.offsetIph).version = 4
    · have hsix : (buf.ipHdrAt buf.offsetIph).version ≠ 6 := by
        rw [hfour]
        decide
      rw [if_pos hfour]
      exact ⟨fun h => ⟨fun _ => h, fun h6 => absurd h6 hsix⟩, fun h => h.1 hfour⟩
    · rw [if_neg hfour]
      by_cases hsix : (buf.ipHdrAt buf.offsetIph).version = 6
      · rw [if_pos hsix]
        exact ⟨fun h => ⟨fun h4 => absurd h4 hfour, fun _ => h⟩, fun h => h.2 hsix⟩
      · rw [if_neg hsix, Traced.yields_fail]
        exact ⟨fun _ => ⟨fun h4 => absurd h4 hfour, fun h6 => absurd h6 hsix⟩, fun _ => trivial⟩

/-- `mcc_pkt_info_update` stays inside the received length, however long the walk over the
extension headers, exactly when the frame fits. -/
theorem finds_mccPktInfoUpdate (hoff : (llinfo.offsetIph.toNat : Int) = buf.offsetIph)
    (hdir : llinfo.dirUs = buf.upstream) :
    (∀ turns, buf.Finds llinfo (mccPktInfoUpdate buf turns llinfo)) ↔ buf.Fits := by
  simp only [finds_mccPktInfoUpdate_iff hoff]
  constructor
  · intro h
    have hhead (hpppoe : buf.field16 (buf.offsetIph - 2) ≠ mccPppoeSessionStage) :
        buf.Holds buf.offsetIph ipHdrSize := ((h 0).2 hpppoe).1
    constructor
    · exact (h 0).1
    · exact hhead
    · intro hpppoe hfour
      rw [← hdir, ← finds_mccPktIpv4Update (hhead hpppoe)]
      exact ((h 0).2 hpppoe).2.1 hfour
    · intro hpppoe hsix
      rw [← hdir, ← finds_mccPktIpv6Update]
      exact fun turns => ((h turns).2 hpppoe).2.2 hsix
  · intro h turns
    refine ⟨h.etherType, ?_⟩
    intro hpppoe
    refine ⟨h.header hpppoe, ?_, ?_⟩
    · intro hfour
      rw [finds_mccPktIpv4Update (h.header hpppoe), hdir]
      exact h.ipv4 hpppoe hfour
    · intro hsix
      have hipv6 := h.ipv6 hpppoe hsix
      rw [← hdir, ← finds_mccPktIpv6Update] at hipv6
      exact hipv6 turns

/-- The lower layer reads inside, and places the IP header. -/
theorem exists_mccDevPktReceive (hlen : buf.len ≠ 0) : (mccDevPktReceive buf).All buf.Inside ∧
      ∃ llinfo, (mccDevPktReceive buf).result = some llinfo ∧
        (llinfo.offsetIph.toNat : Int) = buf.offsetIph ∧ llinfo.dirUs = buf.upstream := by
  rw [mccDevPktReceive, if_neg hlen]
  by_cases hshort : buf.len < mccExcHdrSize
  · rw [if_pos hshort]
    refine ⟨Traced.all_pure.mpr trivial, _, rfl, ?_, ?_⟩
    · rw [RxBuffer.offsetIph, if_pos hshort]
    · simp [RxBuffer.upstream, hshort, mccLlInfoDefault]
  · have hbyte (i : Nat) (hi : i < 8) : buf.Holds i 1 := by
      refine ⟨Int.natCast_nonneg i, ?_⟩
      have hlong := Nat.not_lt.mp hshort
      rw [mccExcHdrSize] at hlong
      push_cast
      omega
    rw [if_neg hshort]
    constructor
    · simp only [Traced.all_bind, all_read8, result_read8, Traced.all_pure, implies_true,
        and_true]
      exact ⟨hbyte 1 (by omega), fun _ _ => ⟨hbyte 3 (by omega), fun _ _ =>
        ⟨hbyte 4 (by omega), fun _ _ => ⟨hbyte 5 (by omega), fun _ _ => hbyte 7 (by omega)⟩⟩⟩⟩
    · refine ⟨_, rfl, ?_, ?_⟩
      · rw [RxBuffer.offsetIph, if_neg hshort]
      · simp [RxBuffer.upstream, hshort]

/-- The packet information belongs to the message found. -/
theorem yields_mccPktInfoUpdate (turns : Nat) :
    (mccPktInfoUpdate buf turns llinfo).Yields (fun _ => True) fun info =>
      pktTypeOf (buf.data info.p) = some info.pktType ∧ info.llinfo = llinfo := by
  have hfound (p : Int) (info : MccPktType → MccPktInfo)
      (hinfo : ∀ type, (info type).p = p ∧ (info type).pktType = type ∧
        (info type).llinfo = llinfo) :
      (do
        let pktType ← mccPktTypeGet buf p
        pure (info pktType)).Yields (fun _ => True) fun info : MccPktInfo =>
          pktTypeOf (buf.data info.p) = some info.pktType ∧ info.llinfo = llinfo := by
    rw [Traced.yields_bind, mccPktTypeGet, Traced.yields_bind, RxBuffer.read8,
      Traced.yields_emit]
    refine ⟨trivial, ?_⟩
    cases hpkt : pktTypeOf (buf.data p) with
    | none => exact Traced.yields_fail.mpr trivial
    | some type =>
        obtain ⟨hp, htype, hll⟩ := hinfo type
        simp only [Traced.yields_pure, hp, htype, hll, hpkt, and_self]
  refine Traced.yields_bind_of_forall fun etherType => ?_
  split
  · exact Traced.yields_fail.mpr trivial
  · refine Traced.yields_bind_of_forall fun iphdr => ?_
    split
    · refine Traced.yields_bind_of_forall fun ipv4 => Traced.yields_bind_of_forall fun csum => ?_
      split
      · split
        · exact hfound _ _ fun _ => ⟨rfl, rfl, rfl⟩
        · exact Traced.yields_fail.mpr trivial
      · exact Traced.yields_fail.mpr trivial
    · split
      · refine Traced.yields_bind_of_forall fun ipv6 =>
          Traced.yields_bind_of_forall fun mld => ?_
        exact hfound _ _ fun _ => ⟨rfl, rfl, rfl⟩
      · exact Traced.yields_fail.mpr trivial

/-- A frame that is received: its message is found, looked at once more, and decoded if its
type is supported. -/
theorem all_mccPktHandle_iff (hresult : (mccDevPktReceive buf).result = some llinfo)
    (hall : (mccDevPktReceive buf).All buf.Inside) (env : MccPktEnv) :
    (mccPktHandle env buf).All buf.Inside ↔
      (mccPktInfoUpdate buf env.extTurns llinfo).Yields buf.Inside fun info =>
        buf.Holds info.p 1 ∧ (info.prot.supports info.llinfo.dirUs (buf.data info.p) = true →
            env.resetting = false → (mccPktProcess env buf info).All buf.Inside) := by
  have hdump : buf.Inside ⟨0, buf.len⟩ := ⟨le_rfl, by simp⟩
  have hdev (Q : MccPktLlInfo → Prop) :
      (mccDevPktReceive buf).Yields buf.Inside Q ↔ Q llinfo := by
    simp [Traced.Yields, hall, hresult]
  rw [Traced.all_iff_yields, mccPktHandle, Traced.yields_bind, mccPktReceive,
    Traced.yields_bind, hdev, Traced.yields_bind, mccPktDump, Traced.yields_emit,
    Traced.yields_bind]
  rw [and_iff_right hdump]
  refine Traced.yields_congr fun info => ?_
  rw [Traced.yields_bind, RxBuffer.read8, Traced.yields_emit]
  refine and_congr Iff.rfl ?_
  cases info.prot.supports info.llinfo.dirUs (buf.data info.p) with
  | false => simp
  | true =>
      rw [if_pos rfl, Traced.yields_pure, ← Traced.all_iff_yields]
      cases env.resetting <;> simp

/-- Every byte that the packet layer reads of a frame lies inside the received length, in every
state of the snooper and however long its loops run, exactly when the frame is as long as its
own length fields announce. -/
theorem reads_inside_iff (buf : RxBuffer) :
    (∀ env : MccPktEnv, (mccPktHandle env buf).All buf.Inside) ↔ (buf.len ≠ 0 → buf.Fits) := by
  by_cases hlen : buf.len = 0
  · have hnone (env : MccPktEnv) : (mccPktHandle env buf).All buf.Inside := by
      rw [mccPktHandle, mccPktReceive, mccDevPktReceive, if_pos hlen]
      exact Traced.all_fail.mpr trivial
    exact ⟨fun _ hne => absurd hlen hne, fun _ => hnone⟩
  obtain ⟨hall, llinfo, hresult, hoff, hdir⟩ := exists_mccDevPktReceive hlen
  rw [forall_prop_of_true hlen, ← finds_mccPktInfoUpdate hoff hdir]
  simp only [all_mccPktHandle_iff hresult hall]
  constructor
  · intro h turns
    have hyields := h (.full turns)
    refine ⟨hyields.1, ?_⟩
    intro info hinfo
    obtain ⟨hpkt, hll⟩ := (yields_mccPktInfoUpdate turns).2 info hinfo
    obtain ⟨hfirst, hprocess⟩ := hyields.2 info hinfo
    have hfits := messageFits_of_all hpkt hfirst fun hsupports => hprocess hsupports rfl
    exact hll ▸ hfits
  · intro h env
    refine ⟨(h env.extTurns).1, ?_⟩
    intro info hinfo
    obtain ⟨hpkt, hll⟩ := (yields_mccPktInfoUpdate env.extTurns).2 info hinfo
    have hfits := (h env.extTurns).2 info hinfo
    exact ⟨hfits.type, fun hsupports _ =>
      all_mccPktProcess (hll ▸ hfits) hpkt hsupports env⟩

/-- An IGMPv3 report that announces two group records and ends behind the first. -/
def shortReport : RxBuffer where
  data i :=
    -- the exception header and the Ethernet header
    ([0, 0, 0, 192, 0, 0, 0, 12,
      1, 0, 94, 0, 0, 22, 2, 0, 0, 0, 0, 1, 8, 0,
      -- the IPv4 header
      69, 0, 0, 36, 0, 0, 0, 0, 1, 2, 23, 193, 192, 0, 2, 1, 224, 0, 0, 22,
      -- the report and its first record
      34, 0, 0, 0, 0, 0, 0, 2, 4, 0, 0, 0, 239, 1, 1, 1] : List (BitVec 8)).getD i.toNat 0
  len := 58
  len_le := by decide

/-- The second record is read behind the end of the frame. -/
theorem reads_not_inside :
    ¬∀ (buf : RxBuffer) (env : MccPktEnv), (mccPktHandle env buf).All buf.Inside := by
  intro h
  exact absurd (h shortReport (.full 1)) (by decide +kernel)

end

end FalconGpon.Mcc
