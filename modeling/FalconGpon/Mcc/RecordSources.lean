/-
# The sources of a group record

`mcc_rec_get` counts the sources of a record with an index of one byte, while a record has up to
65535 of them. `decodesSources_iff` proves that the loop ends, with the source list of the
record, exactly for the records with fewer than 256 sources; with more it starts over for ever.
-/

import FalconGpon.Mcc.ClientSources
import FalconGpon.Mcc.ReportEncoding

namespace FalconGpon.Mcc

open FalconGpon.Lib

/-! ## What is decoded -/

/-- The sources of the record at `r`, in their order. -/
def RxBuffer.sourcesAt (buf : RxBuffer) (prot : MccProt) (r : Int) : List MccIpAddr :=
  (List.range (buf.recordAt r).sNum.toNat).map fun s =>
    buf.addrAt (prot.saOffset r s) prot.addrLen

/-- The packet record and the record are those of `mcc_rec_get`: every source is visited once
and in order, and the list holds each of them once. A record that excludes no source gets the
dummy entry. -/
structure SourcesGiven (sources : List MccIpAddr) (pkt : MccPktRec) (rec : MccRec) : Prop where
  visited : pkt.sas = sources
  got : mccRecGet pkt = some rec
  nodup : (addrs rec.srcList.entries).Nodup
  listed : ∀ sa, sa ∈ addrs rec.srcList.entries ↔
    sa ∈ sources ∨ rec.fmode = some .excl ∧ sources = [] ∧ sa = mccIpAny

/-- Decoding the record ends: more turns change nothing. If it is a record that the snooper
takes, then its source list comes out. -/
structure DecodesSources (buf : RxBuffer) (info : MccPktInfo) (recIdx : Nat) : Prop where
  ends : ∃ turns, ∀ more, mccPktRecRead buf (turns + more) info recIdx =
    mccPktRecRead buf turns info recIdx
  complete : buf.RecordRead (buf.recordOf info recIdx) →
    ∃ turns pkt rec, (mccPktRecRead buf turns info recIdx).result = some pkt ∧
      SourcesGiven (buf.sourcesAt info.prot (buf.recordOf info recIdx)) pkt rec

/-! ## The loop over the sources -/

section

variable {buf : RxBuffer} {info : MccPktInfo} {recIdx : Nat}

theorem sourceIdx_succ {s : BitVec 8} {saNum : BitVec 16} (hfew : saNum.toNat < 256)
    (hs : s.toNat < saNum.toNat) : (s + 1).toNat = s.toNat + 1 := by
  rw [BitVec.toNat_add]
  exact Nat.mod_eq_of_lt (by change s.toNat + 1 < 256; omega)

/-- Turns that are not needed change nothing. -/
theorem sourcesWalk_add {saNum : BitVec 16} (hfew : saNum.toNat < 256) (more : Nat) {turns : Nat}
    {s : BitVec 8} (sas : List MccIpAddr) (hturns : saNum.toNat - s.toNat < turns) :
    sourcesWalk buf info recIdx saNum (turns + more) s sas =
      sourcesWalk buf info recIdx saNum turns s sas := by
  induction turns generalizing s sas with
  | zero => exact absurd hturns (Nat.not_lt_zero _)
  | succ turns ih =>
      rw [Nat.add_right_comm, sourcesWalk, sourcesWalk]
      split
      · rename_i hs
        have hnext := sourceIdx_succ hfew hs
        congr 1
        funext sa
        exact ih (sas ++ [sa]) (by omega)
      · rfl

variable (htype : buf.data info.p = info.prot.recordsType)
  (hidx : recIdx < (buf.field16 (info.p + 6)).toNat)

include htype hidx

theorem result_mccPktRecSaGet_records {sIdx : Nat}
    (hs : sIdx < (buf.recordAt (buf.recordOf info recIdx)).sNum.toNat) :
    (mccPktRecSaGet buf info recIdx sIdx).result =
      some (buf.addrAt (info.prot.saOffset (buf.recordOf info recIdx) sIdx) info.prot.addrLen) := by
  simp [mccPktRecSaGet, versionGet, hasRecords_version htype, result_recGet_records htype hidx,
    recSnumGet, Nat.not_le.mpr hs, recSaGet]

/-- The loop visits the sources that are left, in their order. -/
theorem result_sourcesWalk (hfew : (buf.recordAt (buf.recordOf info recIdx)).sNum.toNat < 256)
    {turns : Nat} {s : BitVec 8} (sas : List MccIpAddr)
    (hturns : (buf.recordAt (buf.recordOf info recIdx)).sNum.toNat - s.toNat < turns) :
    (sourcesWalk buf info recIdx (buf.recordAt (buf.recordOf info recIdx)).sNum turns s
      sas).result =
        some (sas ++ (buf.sourcesAt info.prot (buf.recordOf info recIdx)).drop s.toNat) := by
  induction turns generalizing s sas with
  | zero => exact absurd hturns (Nat.not_lt_zero _)
  | succ turns ih =>
      rw [sourcesWalk]
      split
      · rename_i hs
        have hnext := sourceIdx_succ hfew hs
        have hin : s.toNat < (buf.sourcesAt info.prot (buf.recordOf info recIdx)).length := by
          simpa [RxBuffer.sourcesAt] using hs
        rw [Traced.result_bind, result_mccPktRecSaGet_records htype hidx hs, Option.bind_some,
          ih _ (by omega), hnext, List.drop_eq_getElem_cons hin, List.append_assoc]
        simp [RxBuffer.sourcesAt]
      · rename_i hs
        have hall : (buf.sourcesAt info.prot (buf.recordOf info recIdx)).length ≤ s.toNat := by
          simpa [RxBuffer.sourcesAt] using hs
        rw [List.drop_eq_nil_of_le hall, List.append_nil]
        rfl

/-! ## Decoding a record -/

/-- A record that the snooper takes is read with all its sources. -/
theorem exists_result_mccPktRecRead_sources (hread : buf.RecordRead (buf.recordOf info recIdx))
    (hfew : (buf.recordAt (buf.recordOf info recIdx)).sNum.toNat < 256) :
    ∃ pkt, (mccPktRecRead buf 256 info recIdx).result = some pkt ∧
      pkt.sas = buf.sourcesAt info.prot (buf.recordOf info recIdx) ∧
      protRecTypeOf (buf.recordAt (buf.recordOf info recIdx)).type = some pkt.recType := by
  obtain ⟨ga, hga⟩ := result_mccPktRecGaGet_records htype hidx
  obtain ⟨recType, hrecType, hsome⟩ := hread
  have hturns : (buf.recordAt (buf.recordOf info recIdx)).sNum.toNat - (0 : BitVec 8).toNat < 256 :=
    (Nat.sub_le _ _).trans_lt hfew
  have hsas := result_sourcesWalk htype hidx hfew [] hturns
  simp only [mccPktRecRead, Traced.result_bind, hga, result_recGet_records htype hidx,
    recSnumGet, result_readRecord, Option.bind_some, Traced.result_pure,
    result_recTypeGet_records htype, hrecType, if_neg hsome, hsas]
  exact ⟨_, rfl, rfl, rfl⟩

/-- With few sources the loop ends, and with it the decoding of the record. -/
theorem mccPktRecRead_ends (hfew : buf.RecordRead (buf.recordOf info recIdx) →
      (buf.recordAt (buf.recordOf info recIdx)).sNum.toNat < 256) (more : Nat) :
    mccPktRecRead buf (256 + more) info recIdx = mccPktRecRead buf 256 info recIdx := by
  refine Traced.bind_congr fun ga _ => Traced.bind_congr fun pRec hrec => ?_
  rw [result_recGet_records htype hidx] at hrec
  cases hrec
  refine Traced.bind_congr fun saNum hnum => Traced.bind_congr fun type hrecType => ?_
  have hsNum : saNum = (buf.recordAt (buf.recordOf info recIdx)).sNum := by
    simpa [recSnumGet] using hnum.symm
  rw [result_recTypeGet_records htype, Option.some.injEq] at hrecType
  subst hsNum hrecType
  cases hprot : protRecTypeOf (buf.recordAt (buf.recordOf info recIdx)).type with
  | none => rfl
  | some recType =>
      dsimp only
      split
      · rfl
      · rename_i hsome
        have hlt := hfew ⟨recType, hprot, hsome⟩
        rw [sourcesWalk_add hlt more [] ((Nat.sub_le _ _).trans_lt hlt)]

end

/-- `mcc_rec_get` takes a record whose type and sources are those of a membership record. -/
theorem exists_sourcesGiven {sources : List MccIpAddr} {pkt : MccPktRec} (hsas : pkt.sas = sources)
    (hsome : pkt.recType = .allowNewSources ∨ pkt.recType = .blockOldSources → sources ≠ []) :
    ∃ rec, SourcesGiven sources pkt rec := by
  subst hsas
  have hmodes : ∃ modes, mccRecModes pkt.recType pkt.sas = some modes := by
    cases htype : pkt.recType with
    | allowNewSources => simp [mccRecModes, hsome (.inl htype)]
    | blockOldSources => simp [mccRecModes, hsome (.inr htype)]
    | _ => exact ⟨_, rfl⟩
  obtain ⟨modes, hmodes⟩ := hmodes
  refine ⟨_, rfl, by rw [mccRecGet, hmodes]; rfl, MccSrcList.nodup _, ?_⟩
  intro sa
  rw [mem_addrs_mccRecSources]
  split
  · rename_i hdummy
    simp [hdummy]
  · rename_i hlisted
    constructor
    · intro hmem
      exact .inl hmem
    · rintro (hmem | ⟨hexcl, hnone, _⟩)
      · exact hmem
      · exact absurd ⟨hexcl, hnone⟩ hlisted

theorem DecodesSources.sNum_lt {buf : RxBuffer} {info : MccPktInfo} {recIdx : Nat}
    (h : DecodesSources buf info recIdx) (htype : buf.data info.p = info.prot.recordsType)
    (hidx : recIdx < (buf.field16 (info.p + 6)).toNat)
    (hread : buf.RecordRead (buf.recordOf info recIdx)) :
    (buf.recordAt (buf.recordOf info recIdx)).sNum.toNat < 256 := by
  obtain ⟨turns, pkt, _, hresult, _⟩ := h.complete hread
  exact (recordRead_of_result htype hidx hresult).2

/-! ## Exactly the records with fewer than 256 sources -/

/-- A record of a report is decoded as it should be exactly if it has fewer than 256 sources,
or is one that the snooper does not take. -/
theorem decodesSources_iff {buf : RxBuffer} {info : MccPktInfo} {recIdx : Nat}
    (htype : buf.data info.p = info.prot.recordsType)
    (hidx : recIdx < (buf.field16 (info.p + 6)).toNat) :
    DecodesSources buf info recIdx ↔ (buf.RecordRead (buf.recordOf info recIdx) →
        (buf.recordAt (buf.recordOf info recIdx)).sNum.toNat < 256) := by
  constructor
  · intro h hread
    exact h.sNum_lt htype hidx hread
  · intro hfew
    refine ⟨⟨256, mccPktRecRead_ends htype hidx hfew⟩, ?_⟩
    intro hread
    obtain ⟨pkt, hresult, hsas, hrecType⟩ :=
      exists_result_mccPktRecRead_sources htype hidx hread (hfew hread)
    have hsome : pkt.recType = .allowNewSources ∨ pkt.recType = .blockOldSources →
        buf.sourcesAt info.prot (buf.recordOf info recIdx) ≠ [] := by
      intro hneeds hnone
      obtain ⟨recType, htaken, hnot⟩ := hread
      rw [hrecType, Option.some.injEq] at htaken
      refine hnot ⟨htaken ▸ hneeds, ?_⟩
      apply BitVec.eq_of_toNat_eq
      simpa [RxBuffer.sourcesAt] using hnone
    obtain ⟨rec, hgiven⟩ := exists_sourcesGiven hsas hsome
    exact ⟨256, pkt, rec, hresult, hgiven⟩

/-- The second record of a received report is decoded. -/
theorem decodesSources_twoRecords :
    ∃ info, (mccPktReceive
        (reportFrame (igmpHeaders 56 0x17ad) (twoRecords .igmp) 78 (by decide)) 1).result =
          some info ∧
      DecodesSources (reportFrame (igmpHeaders 56 0x17ad) (twoRecords .igmp) 78 (by decide)) info
        1 := by
  have hup : (reportFrame (igmpHeaders 56 0x17ad) (twoRecords .igmp) 78 (by decide)).Upstream :=
    ⟨by decide, by decide, by decide⟩
  obtain ⟨info, hinfo, hprot, hp, _⟩ := exists_result_mccPktReceive hup
    (.igmp (by decide) (by decide) (by decide)) (by decide) 0
  refine ⟨info, hinfo, (decodesSources_iff ?_ ?_).mpr fun _ => ?_⟩
  · rw [hprot, hp]
    decide
  · rw [hp]
    decide
  · rw [RxBuffer.recordOf, hprot, hp]
    decide

/-- A group with 256 sources. -/
def manySources : Report .igmp where
  reserved1 := 0
  checksum := 0
  reserved2 := 0
  records :=
    [{ type := 1, group := BitVec.ofNat _ 0xef010101
       sources := (List.range 256).map fun i => BitVec.ofNat _ (0xc6120000 + i), aux := []
       sources_lt := by rw [List.length_map, List.length_range]; decide, aux_lt := length_noAux_lt }]
  records_lt := by decide

def manySourcesFrame : RxBuffer :=
  reportFrame (igmpHeaders 1060 0x13c1) manySources 1082 (by decide)

/-- The frame is received, and decoding its record does not end. -/
theorem not_decodesSources :
    ∃ info, (mccPktReceive manySourcesFrame 1).result = some info ∧
      ¬DecodesSources manySourcesFrame info 0 := by
  have hlies : manySources.LiesAt manySourcesFrame 42 := Report.liesAt lays_memOf
  have hup : manySourcesFrame.Upstream := ⟨by decide, by decide, by decide⟩
  obtain ⟨info, hinfo, hprot, hp, _⟩ := exists_result_mccPktReceive hup
    (.igmp (by decide) (by decide) (by decide)) hlies.type 0
  refine ⟨info, hinfo, ?_⟩
  intro h
  have hrecord : manySourcesFrame.recordOf info 0 = 50 := by
    rw [RxBuffer.recordOf, hp]
    rfl
  have htype : manySourcesFrame.data info.p = info.prot.recordsType := by
    rw [hprot, hp]
    exact hlies.type
  have hidx : 0 < (manySourcesFrame.field16 (info.p + 6)).toNat := by
    rw [hp]
    decide
  have hread : manySourcesFrame.RecordRead (manySourcesFrame.recordOf info 0) := by
    rw [hrecord]
    exact ⟨.isInclude, by decide, by simp⟩
  have hnum : (manySourcesFrame.recordAt 50).sNum.toNat = 256 := by
    have hlast : manySources.records[0].sources.length = 256 := by simp [manySources]
    exact (hlies.record 0 (by simp [manySources])).sNum.trans hlast
  have hfew := h.sNum_lt htype hidx hread
  rw [hrecord, hnum] at hfew
  exact absurd hfew (Nat.lt_irrefl 256)

end FalconGpon.Mcc
