/-
# Groups

`mcc_grp_state_update` merges the filters of the clients of a multicast group. It computes
the merge of RFC 3376 exactly if no client excludes sources, or if the client that came last
does and the intersection of the excluded lists did not begin anew with sources that matter
(`mccGrpStateUpdate_filter_iff`).
-/

import FalconGpon.Mcc.SrcList

namespace FalconGpon.Mcc

open FalconGpon.Lib

/-- `enum mcc_src_mode`, without `MCC_SRC_MODE_NA`. -/
inductive MccSrcMode
  | allow
  | block
deriving DecidableEq

/-- `struct mcc_clt_entry`. -/
structure MccCltEntry where
  ca : MccIpAddr
  srcList : MccSrcList
  fmode : FilterMode
  smode : Option MccSrcMode
  isStatic : Bool
deriving DecidableEq

/-- `struct mcc_grp_entry`; the entries of `srcLinkList` are those of clients. -/
structure MccGrpEntry where
  da : MccIpAddr
  cltList : List MccCltEntry
  srcLinkList : List MccSrcEntry
  fmode : FilterMode
  isStatic : Bool
deriving DecidableEq

/-- `mcc_grp_slist_intersect`. -/
def mccGrpSlistIntersect : List MccSrcEntry → List MccSrcEntry → List MccSrcEntry :=
  slistIntersect

/-- `mcc_grp_slist_subtract`. -/
def mccGrpSlistSubtract : List MccSrcEntry → List MccSrcEntry → List MccSrcEntry :=
  slistSubtract

/-- `mcc_grp_slist_unite`. -/
def mccGrpSlistUnite : List MccSrcEntry → List MccSrcEntry → List MccSrcEntry := slistUnite

/-- `mcc_grp_slist_get`, with an empty list to fill. -/
def mccGrpSlistGet (fmode : FilterMode) (cltList : List MccCltEntry) : List MccSrcEntry :=
  match fmode with
  | .excl =>
      let list := cltList.foldl (fun list e =>
        if e.fmode = .excl then mccGrpSlistIntersect list e.srcList.entries else list) []
      cltList.foldl (fun list e =>
        if e.fmode = .incl then mccGrpSlistSubtract list e.srcList.entries else list) list
  | .incl => cltList.foldl (fun list e => mccGrpSlistUnite list e.srcList.entries) []

/-- `mcc_grp_state_update`. -/
def mccGrpStateUpdate (grp : MccGrpEntry) : MccGrpEntry :=
  let fmode := grp.cltList.foldl (fun fmode e =>
    let fmode := if e.fmode = .incl then .incl else fmode
    if e.fmode = .excl then .excl else fmode) grp.fmode
  { grp with fmode, srcLinkList := mccGrpSlistGet fmode grp.cltList }

def MccCltEntry.filter (clt : MccCltEntry) : SourceFilter MccIpAddr :=
  ⟨clt.fmode, sources clt.srcList.entries⟩

def MccGrpEntry.filter (grp : MccGrpEntry) : SourceFilter MccIpAddr :=
  ⟨grp.fmode, sources grp.srcLinkList⟩

def MccCltEntry.record (clt : MccCltEntry) : MccRecord := ⟨clt.fmode, clt.srcList.entries⟩

theorem mccGrpSlistGet_eq (fmode : FilterMode) (cltList : List MccCltEntry) :
    mccGrpSlistGet fmode cltList = walkSources fmode (cltList.map MccCltEntry.record) := by
  cases fmode with
  | incl => exact (walkSources_map_incl MccCltEntry.record cltList).symm
  | excl => exact (walkSources_map_excl MccCltEntry.record cltList).symm

theorem mccGrpStateUpdate_eq (grp : MccGrpEntry) :
    mccGrpStateUpdate grp =
      { grp with
        fmode := walkMode grp.fmode (grp.cltList.map MccCltEntry.record)
        srcLinkList := walkSources (walkMode grp.fmode (grp.cltList.map MccCltEntry.record))
          (grp.cltList.map MccCltEntry.record) } := by
  simp only [mccGrpStateUpdate, mccGrpSlistGet_eq, walkMode, List.foldl_map]
  rfl

theorem filter_mccGrpStateUpdate (grp : MccGrpEntry) : (mccGrpStateUpdate grp).filter =
      ⟨walkMode grp.fmode (grp.cltList.map MccCltEntry.record),
        sources (walkSources (walkMode grp.fmode (grp.cltList.map MccCltEntry.record))
          (grp.cltList.map MccCltEntry.record))⟩ := by
  rw [mccGrpStateUpdate_eq]
  rfl

theorem map_filter_record (cltList : List MccCltEntry) :
    (cltList.map MccCltEntry.record).map MccRecord.filter = cltList.map MccCltEntry.filter := by
  rw [List.map_map]
  rfl

/-- The group gets the merged filter of its clients if and only if no client excludes, and there
is one or the mode was INCLUDE before; or the last client excludes, and what is common to
the excluded lists since their intersection last ran empty, and included by no client, is
excluded by all that exclude. -/
theorem mccGrpStateUpdate_filter_iff (grp : MccGrpEntry) : (mccGrpStateUpdate grp).filter =
        SourceFilter.merge (grp.cltList.map MccCltEntry.filter) ↔
      MergeGuard grp.fmode (grp.cltList.map MccCltEntry.record) := by
  rw [← map_filter_record, filter_mccGrpStateUpdate]
  exact mccWalk_filter_iff _ _

theorem filter_eq_merge {grp : MccGrpEntry}
    (hguard : MergeGuard grp.fmode (grp.cltList.map MccCltEntry.record)) :
    (mccGrpStateUpdate grp).filter = SourceFilter.merge (grp.cltList.map MccCltEntry.filter) := by
  rw [← map_filter_record, filter_mccGrpStateUpdate]
  exact (mccWalk_filter_iff _ _).mpr hguard

/-! ## A client that excludes before one that includes -/

def sampleSource (sa : MccIpAddr) : MccSrcList := ⟨[⟨sa, 0, false, false⟩], List.nodup_singleton _⟩

def sampleExcluding : MccCltEntry := ⟨1, sampleSource mccIpAny, .excl, none, false⟩

def sampleIncluding : MccCltEntry := ⟨2, sampleSource 7, .incl, none, false⟩

/-- The group of the two includes, so that the first client misses all other sources. -/
theorem mccGrpStateUpdate_not_merge :
    ¬ ∀ grp : MccGrpEntry, (mccGrpStateUpdate grp).filter =
      SourceFilter.merge (grp.cltList.map MccCltEntry.filter) := by
  intro hall
  have hfilter := hall ⟨0xe1, [sampleExcluding, sampleIncluding], [], .incl, false⟩
  have hmode : (SourceFilter.merge ([sampleExcluding, sampleIncluding].map
      MccCltEntry.filter)).mode = .excl :=
    SourceFilter.mode_merge.mpr ⟨sampleExcluding.filter, List.mem_cons_self, rfl⟩
  rw [← hfilter] at hmode
  cases hmode

end FalconGpon.Mcc
