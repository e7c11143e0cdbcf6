/-
# Admission of joins

`mcc_rec_restrict` compares the streams of a port, and those that a record adds, with the limits
of the subscriber entity. What it charges is not always what the record adds: a record under a
wildcard is charged once however many sources it has, a client that excludes sources can bring
back those of others, and the look-up of streams that are already there does not find them. As
long as no record of a run is of these kinds the port stays within its limits
(`mccPort_admission`).
-/

import FalconGpon.Lib.Transition
import FalconGpon.Mcc.Streams

namespace FalconGpon.Mcc

open FalconGpon.Lib

/-! ## Records that add no more than their sources -/

def Including (cltList : List MccCltEntry) (rec : MccRec) : Prop :=
  (∀ clt ∈ cltList, clt.fmode = .incl) ∧ rec.fmode ≠ some .excl

/-- All clients of a group receive from any source, and the record is of one more or of one that
leaves. -/
def AnySource (cltList : List MccCltEntry) (rec : MccRec) : Prop :=
  (∀ clt ∈ cltList,
      clt.fmode = .excl ∧ clt.smode = none ∧ addrs clt.srcList.entries = [mccIpAny]) ∧
    rec.smode = none ∧
    (rec.fmode = some .excl ∧ addrs rec.srcList.entries = [mccIpAny] ∨
      rec.fmode = some .incl ∧ rec.srcList.entries = [])

instance (cltList : List MccCltEntry) (rec : MccRec) : Decidable (Including cltList rec) :=
  inferInstanceAs (Decidable (_ ∧ _))

instance (cltList : List MccCltEntry) (rec : MccRec) : Decidable (AnySource cltList rec) :=
  inferInstanceAs (Decidable (_ ∧ _))

section Growth

variable {grp after : MccGrpEntry} {rec : MccRec} {charged : List MccSrcEntry} {e : MccSrcEntry}

theorem Including.fmode_clt {cltList : List MccCltEntry} (h : Including cltList rec) :
    (rec.clt cltList).fmode = .incl := by
  have hfound : ((findKey MccCltEntry.ca rec.ca cltList).getD
      ⟨rec.ca, .empty, .incl, none, false⟩).fmode = .incl := by
    cases hfind : findKey MccCltEntry.ca rec.ca cltList with
    | none => rfl
    | some clt => exact h.1 clt (mem_findKey hfind)
  simp only [MccRec.clt, hfound]
  cases hmode : rec.fmode with
  | none => rfl
  | some mode =>
      cases mode with
      | incl => rfl
      | excl => exact absurd hmode h.2

/-- A stream of an including group after a record was there or comes with the record. -/
theorem Including.mem_after (h : Including grp.cltList rec)
    (hgrp : grp.Refreshed ∨ grp.cltList = []) (hcharged : rec.smode ≠ some .block →
      ∀ r ∈ rec.srcList.entries, r.sa ∈ addrs grp.srcLinkList ∨ r ∈ charged)
    {clt : MccCltEntry} (hclt : clt ∈ mccCltUpdate rec grp.cltList) (he : e ∈ clt.srcList.entries) :
    e.sa ∈ addrs grp.srcLinkList ∨ e.sa ∈ addrs charged := by
  rcases exists_of_mem_mccCltUpdate hclt he with ⟨before, hbefore, hmem⟩ | ⟨hadd, r, hr, rfl⟩
  · have hrefreshed : grp.Refreshed := hgrp.resolve_right (List.ne_nil_of_mem hbefore)
    rw [hrefreshed.srcLinkList, hrefreshed.fmode_of_forall h.1]
    exact .inl (mem_walkSources_incl.mpr
      ⟨before.record, List.mem_map_of_mem hbefore, List.mem_map_of_mem hmem⟩)
  · have hallow : rec.smode ≠ some .block := by
      intro hblock
      rw [h.fmode_clt] at hadd
      simp [MccRec.clt, hblock, mccSrcListActionGet] at hadd
    exact (hcharged hallow r hr).imp_right fun hmem => List.mem_map.mpr ⟨r, hmem, rfl⟩

/-- A group whose clients receive from any source has this stream. -/
theorem AnySource.mem_srcLinkList (h : AnySource grp.cltList rec) (hgrp : grp.Refreshed) :
    mccIpAny ∈ addrs grp.srcLinkList := by
  have hexcl : ∀ {mode : FilterMode} {list : List MccSrcEntry},
      list ∈ listsOf mode (grp.cltList.map MccCltEntry.record) →
        mode = .excl ∧ mccIpAny ∈ addrs list := by
    intro mode list hlist
    obtain ⟨_, hrecord, rfl, rfl⟩ := mem_listsOf.mp hlist
    obtain ⟨clt, hclt, rfl⟩ := List.mem_map.mp hrecord
    obtain ⟨hmode, _, haddrs⟩ := h.1 clt hclt
    refine ⟨hmode, ?_⟩
    change mccIpAny ∈ addrs clt.srcList.entries
    rw [haddrs]
    exact List.mem_cons_self
  have hlists : listsOf .excl (grp.cltList.map MccCltEntry.record) ≠ [] := by
    obtain ⟨clt, hclt⟩ := List.exists_mem_of_ne_nil _ hgrp.2
    exact List.ne_nil_of_mem
      (mem_listsOf.mpr ⟨clt.record, List.mem_map_of_mem hclt, (h.1 clt hclt).1, rfl⟩)
  rw [hgrp.srcLinkList, hgrp.fmode_of_forall fun clt hclt => (h.1 clt hclt).1, walkSources,
    mem_foldl_slistSubtract]
  refine ⟨mem_foldl_slistIntersect (fun list hlist => (hexcl hlist).2) (.inr ⟨rfl, hlists⟩), ?_⟩
  intro list hlist
  exact absurd (hexcl hlist).1 (fun h => by cases h)

/-- Its only stream after a record was there or comes with the record. -/
theorem AnySource.mem_after (h : AnySource grp.cltList rec)
    (hgrp : grp.Refreshed ∨ grp.cltList = []) (hcharged : rec.smode ≠ some .block →
      ∀ r ∈ rec.srcList.entries, r.sa ∈ addrs grp.srcLinkList ∨ r ∈ charged)
    {clt : MccCltEntry} (hclt : clt ∈ mccCltUpdate rec grp.cltList) (he : e ∈ clt.srcList.entries) :
    e.sa ∈ addrs grp.srcLinkList ∨ e.sa ∈ addrs charged := by
  rcases exists_of_mem_mccCltUpdate hclt he with ⟨before, hbefore, hmem⟩ | ⟨_, r, hr, rfl⟩
  · have hany : e.sa ∈ addrs before.srcList.entries := List.mem_map_of_mem hmem
    rw [(h.1 before hbefore).2.2, List.mem_singleton] at hany
    rw [hany]
    exact .inl (h.mem_srcLinkList (hgrp.resolve_right (List.ne_nil_of_mem hbefore)))
  · have hallow : rec.smode ≠ some .block := by
      rw [h.2.1]
      exact nofun
    exact (hcharged hallow r hr).imp_right fun hmem => List.mem_map.mpr ⟨r, hmem, rfl⟩

def Priced (cltList : List MccCltEntry) (rec : MccRec) : Prop :=
  ∀ y ∈ cltList.flatMap (·.srcList.entries) ++ rec.srcList.entries,
    ∀ z ∈ cltList.flatMap (·.srcList.entries) ++ rec.srcList.entries, y.sa = z.sa → y.ibw = z.ibw

/-- The group weighs no more than before and what is charged. -/
theorem weigh_after_le {w : MccSrcEntry → Nat} (hkept : ∀ e : MccSrcEntry, w e.kept = w e)
    (hw : ∀ y ∈ grp.cltList.flatMap (·.srcList.entries) ++ rec.srcList.entries,
      ∀ z ∈ grp.cltList.flatMap (·.srcList.entries) ++ rec.srcList.entries,
        y.sa = z.sa → w y = w z)
    (hgrp : grp.Refreshed ∨ grp.cltList = [] ∧ grp.srcLinkList = [])
    (hshape : Including grp.cltList rec ∨ AnySource grp.cltList rec)
    (hsub : charged ⊆ rec.srcList.entries)
    (hcharged : rec.smode ≠ some .block →
      ∀ r ∈ rec.srcList.entries, r.sa ∈ addrs grp.srcLinkList ∨ r ∈ charged)
    (hafter : mccGrpRefresh { grp with cltList := mccCltUpdate rec grp.cltList } = some after) :
    after.weigh w ≤ grp.weigh w + (charged.map w).sum := by
  have hrefreshed := refreshed_of_mccGrpRefresh hafter
  have hgrp' : grp.Refreshed ∨ grp.cltList = [] := hgrp.imp_right And.left
  let pool := grp.cltList.flatMap (·.srcList.entries) ++ rec.srcList.entries
  have hbefore : ∀ e ∈ grp.srcLinkList ++ charged, e ∈ pool := by
    intro e he
    rcases List.mem_append.mp he with he | he
    · rcases hgrp with hgrp | ⟨_, hnone⟩
      · obtain ⟨clt, hclt, hmem⟩ := hgrp.exists_clt he
        exact List.mem_append_left _ (List.mem_flatMap.mpr ⟨clt, hclt, hmem⟩)
      · rw [hnone] at he
        cases he
    · exact List.mem_append_right _ (hsub he)
  -- an entry of the group afterwards is one that a client had or keeps of the record
  have hafterwards : ∀ e ∈ after.srcLinkList, (∃ y ∈ pool, y.sa = e.sa ∧ w y = w e) ∧
      e.sa ∈ addrs (grp.srcLinkList ++ charged) := by
    intro e he
    obtain ⟨clt, hclt, hmem⟩ := hrefreshed.exists_clt he
    rw [cltList_mccGrpRefresh hafter] at hclt
    constructor
    · rcases exists_of_mem_mccCltUpdate hclt hmem with ⟨before, hbefore, hmem⟩ | ⟨_, r, hr, rfl⟩
      · exact ⟨e, List.mem_append_left _ (List.mem_flatMap.mpr ⟨before, hbefore, hmem⟩), rfl, rfl⟩
      · exact ⟨r, List.mem_append_right _ hr, rfl, (hkept r).symm⟩
    · have hcovered : e.sa ∈ addrs grp.srcLinkList ∨ e.sa ∈ addrs charged := by
        rcases hshape with hincl | hany
        · exact hincl.mem_after hgrp' hcharged hclt hmem
        · exact hany.mem_after hgrp' hcharged hclt hmem
      simpa only [addrs, List.map_append, List.mem_append] using hcovered
  have hpool : ∀ e ∈ after.srcLinkList ++ (grp.srcLinkList ++ charged),
      ∃ y ∈ pool, y.sa = e.sa ∧ w y = w e := by
    intro e he
    rcases List.mem_append.mp he with he | he
    · exact (hafterwards e he).1
    · exact ⟨e, hbefore e he, rfl, rfl⟩
  have hsum := sum_le_of_keys MccSrcEntry.sa w (List.subset_append_left after.srcLinkList _)
    (List.subset_append_right _ (grp.srcLinkList ++ charged))
    (fun y hy z hz hsame => by
      obtain ⟨y', hy', hysa, hyw⟩ := hpool y hy
      obtain ⟨z', hz', hzsa, hzw⟩ := hpool z hz
      rw [← hyw, ← hzw]
      exact hw y' hy' z' hz' (hysa.trans (hsame.trans hzsa.symm)))
    hrefreshed.nodup
    (fun sa hsa => by
      obtain ⟨e, he, rfl⟩ := List.mem_map.mp hsa
      exact (hafterwards e he).2)
  rw [List.map_append, List.sum_append] at hsum
  exact hsum

/-- The port weighs no more than before and what is charged. -/
theorem weigh_mccFlwUpdate_le {port : MccPort} (hport : port.WellFormed) {w : MccSrcEntry → Nat}
    (hkept : ∀ e : MccSrcEntry, w e.kept = w e)
    (hw : ∀ y ∈ (port.grpFor rec).cltList.flatMap (·.srcList.entries) ++ rec.srcList.entries,
      ∀ z ∈ (port.grpFor rec).cltList.flatMap (·.srcList.entries) ++ rec.srcList.entries,
        y.sa = z.sa → w y = w z)
    (hshape : Including (port.grpFor rec).cltList rec ∨ AnySource (port.grpFor rec).cltList rec)
    (hsub : charged ⊆ rec.srcList.entries) (hcharged : rec.smode ≠ some .block →
      ∀ r ∈ rec.srcList.entries, r.sa ∈ addrs (port.grpFor rec).srcLinkList ∨ r ∈ charged) :
    ((mccFlwUpdate rec port.flwList).map (MccFlwEntry.weigh w)).sum ≤
      port.weigh w + (charged.map w).sum := by
  have hchange := weigh_mccFlwUpdate w port rec
  have hgrp : (port.grpFor rec).Refreshed ∨
      (port.grpFor rec).cltList = [] ∧ (port.grpFor rec).srcLinkList = [] := by
    unfold MccPort.grpFor
    cases hfind : port.grp rec.flwId rec.da with
    | none => exact .inr ⟨rfl, rfl⟩
    | some grp =>
        obtain ⟨flw, hflw, hgrp⟩ := Option.bind_eq_some_iff.mp hfind
        exact .inl (hport flw (mem_findKey hflw) grp (mem_findKey hgrp)).1
  cases hafter : port.grpAfter rec with
  | none =>
      rw [hafter, Option.map_none, Option.getD_none] at hchange
      omega
  | some after =>
      rw [hafter, Option.map_some, Option.getD_some] at hchange
      have hle := weigh_after_le hkept hw hgrp hshape hsub hcharged hafter
      omega

end Growth

/-! ## What is charged -/

/-- The entries that `mcc_rec_restrict` charges. -/
def mccCharged (grp : Option MccGrpEntry) : List MccSrcEntry → List MccSrcEntry
  | [] => []
  | e :: rest =>
      if e.ibwAny then if grp.isNone then [e] else []
      else if grp.any fun grp => (mccGrpSrcFind grp e.sa).isSome then mccCharged grp rest
      else e :: mccCharged grp rest

def Uniform (list : List MccSrcEntry) : Prop :=
  (∀ e ∈ list, e.ibwAny = true) ∨ ∀ e ∈ list, e.ibwAny = false

/-- The record as it is charged: a join that the white list allows. -/
def mccRecToCharge (wlist : MccOmciWlist) (port : MccPort) (rec : MccRec) : Option MccRec :=
  if wlist.supportedProtMask.getLsbD rec.version = false then none
  else if rec.fmode = some .incl ∧ rec.srcList.entries = [] then none
  else if wlist.srcList.entries = [] then none
  else
    let applied := mccRecWlistApply wlist.srcList rec
    if applied.srcList.entries = [] then none
    else if mccSrcListActionGet (((port.grp applied.flwId applied.da).map MccGrpEntry.fmode).getD
        .incl) applied.smode = .rem then none
    else some applied

section Charge

variable {grp : Option MccGrpEntry} {list : List MccSrcEntry} {e : MccSrcEntry}

theorem mccCharged_sublist : List.Sublist (mccCharged grp list) list := by
  induction list with
  | nil => exact .slnil
  | cons e rest ih =>
      rw [mccCharged]
      split
      · split
        · exact List.cons_sublist_cons.mpr (List.nil_sublist rest)
        · exact List.nil_sublist _
      · split
        · exact ih.cons e
        · exact ih.cons_cons e

theorem mccCapIncr_of_plain (hplain : ∀ e ∈ list, e.ibwAny = false) (incr : MccCapacity) :
    mccCapIncr grp list incr =
      ⟨incr.str + BitVec.ofNat 32 (mccCharged grp list).length,
        incr.ibw + BitVec.ofNat 64 ((mccCharged grp list).map ibwWeight).sum⟩ := by
  induction list generalizing incr with
  | nil => simp [mccCapIncr, mccCharged]
  | cons e rest ih =>
      obtain ⟨he, hrest⟩ := List.forall_mem_cons.mp hplain
      have hibw : e.ibw.setWidth 64 = BitVec.ofNat 64 e.ibw.toNat := by
        rw [← BitVec.ofNat_toNat]
      rw [mccCapIncr, mccCharged, he, if_neg Bool.false_ne_true, if_neg Bool.false_ne_true]
      split
      · exact ih hrest incr
      · rw [ih hrest, MccCapacity.charge, hibw, List.length_cons, List.map_cons, List.sum_cons,
          Nat.add_comm _ 1, BitVec.ofNat_add, BitVec.ofNat_add, BitVec.add_assoc, BitVec.add_assoc]
        rfl

theorem mccCapIncr_eq (hlist : Uniform list) :
    mccCapIncr grp list ⟨0, 0⟩ =
      ⟨BitVec.ofNat 32 (mccCharged grp list).length,
        BitVec.ofNat 64 ((mccCharged grp list).map ibwWeight).sum⟩ := by
  rcases hlist with hany | hplain
  · cases list with
    | nil => rfl
    | cons e rest =>
        rw [mccCapIncr, mccCharged, hany e List.mem_cons_self, if_pos rfl, if_pos rfl]
        cases grp with
        | none => simp [ibwWeight, ← BitVec.ofNat_toNat]
        | some grp => rfl
  · rw [mccCapIncr_of_plain hplain]
    exact congrArg₂ MccCapacity.mk (BitVec.zero_add _) (BitVec.zero_add _)

/-- A charged entry of a group that is there is not found in it. -/
theorem mem_mccCharged (he : e ∈ mccCharged grp list) :
    grp = none ∨ e.ibwAny = false ∧ ∀ found ∈ grp, mccGrpSrcFind found e.sa = none := by
  induction list with
  | nil => cases he
  | cons r rest ih =>
      rw [mccCharged] at he
      split at he
      · split at he
        · rename_i hnone
          exact .inl (Option.isNone_iff_eq_none.mp hnone)
        · cases he
      · rename_i hplain
        split at he
        · exact ih he
        · rename_i hfind
          rcases List.mem_cons.mp he with rfl | he
          · refine .inr ⟨by simpa using hplain, fun found hfound => ?_⟩
            rw [Option.mem_def.mp hfound] at hfind
            simpa using hfind
          · exact ih he

/-- The charge covers what a record adds: a wildcard has one source for a new group and none for
an old one, and a look-up that finds a stream is right. -/
def Covers (grp : Option MccGrpEntry) (list : List MccSrcEntry) : Prop :=
  ∀ e ∈ list,
    (e.ibwAny = true → (grp = none → list.length ≤ 1) ∧
      ∀ found ∈ grp, e.sa ∈ addrs found.srcLinkList) ∧
    (e.ibwAny = false → ∀ found ∈ grp, (mccGrpSrcFind found e.sa).isSome →
      e.sa ∈ addrs found.srcLinkList)

theorem found_or_mem_mccCharged (hplain : ∀ e ∈ list, e.ibwAny = false) (he : e ∈ list) :
    (∃ found ∈ grp, (mccGrpSrcFind found e.sa).isSome) ∨ e ∈ mccCharged grp list := by
  induction list with
  | nil => cases he
  | cons r rest ih =>
      obtain ⟨hr, hrest⟩ := List.forall_mem_cons.mp hplain
      rw [mccCharged, hr, if_neg Bool.false_ne_true]
      split
      · rename_i hfind
        rcases List.mem_cons.mp he with rfl | he
        · cases grp with
          | none => cases hfind
          | some found => exact .inl ⟨found, rfl, hfind⟩
        · exact ih hrest he
      · rcases List.mem_cons.mp he with rfl | he
        · exact .inr List.mem_cons_self
        · exact (ih hrest he).imp_right (List.mem_cons_of_mem _)

/-- Then each source of a record was there or is charged. -/
theorem Covers.listed_or_charged (hcovers : Covers grp list) (hlist : Uniform list) (he : e ∈ list) :
    (∃ found ∈ grp, e.sa ∈ addrs found.srcLinkList) ∨ e ∈ mccCharged grp list := by
  rcases hlist with hany | hplain
  · obtain ⟨hnew, hold⟩ := (hcovers e he).1 (hany e he)
    cases grp with
    | some found => exact .inl ⟨found, rfl, hold found rfl⟩
    | none =>
        cases list with
        | nil => cases he
        | cons r rest =>
            have hrest : rest = [] := by
              have hlength := hnew rfl
              rw [List.length_cons] at hlength
              exact List.eq_nil_of_length_eq_zero (by omega)
            rw [hrest] at he
            rw [mccCharged, hany r List.mem_cons_self]
            exact .inr he
  · rcases found_or_mem_mccCharged hplain he with ⟨found, hfound, hfind⟩ | hcharged
    · exact .inl ⟨found, hfound, (hcovers e he).2 (hplain e he) found hfound hfind⟩
    · exact .inr hcharged

/-! What `mcc_rec_restrict` does to a record. -/

variable {limits : MccLimits} {wlist : MccOmciWlist} {port : MccPort} {rec applied : MccRec}

def mccIncr (port : MccPort) (rec : MccRec) : MccCapacity :=
  mccCapIncr (port.grp rec.flwId rec.da) rec.srcList.entries ⟨0, 0⟩

/-- A charged record is kept if it adds no stream or the port stays within its limits. -/
theorem mccRecRestrict_of_toCharge (hcharge : mccRecToCharge wlist port rec = some applied)
    (hkept : (mccRecRestrict limits wlist port rec).2.discard = false) :
    (mccRecRestrict limits wlist port rec).2 = applied ∧ ((mccIncr port applied).str = 0 ∨
        (mccOmciPortTotalCapacityGet limits).discards
          ((mccPortTotalCapacityGet port).plus (mccIncr port applied)) limits.bwEnforcement =
            false) := by
  obtain ⟨hversion, hcharge⟩ := Option.ite_none_left_eq_some.mp hcharge
  obtain ⟨hjoin, hcharge⟩ := Option.ite_none_left_eq_some.mp hcharge
  obtain ⟨hwlist, hcharge⟩ := Option.ite_none_left_eq_some.mp hcharge
  obtain ⟨hsome, hcharge⟩ := Option.ite_none_left_eq_some.mp hcharge
  obtain ⟨hadd, hcharge⟩ := Option.ite_none_left_eq_some.mp hcharge
  cases hcharge
  rw [mccRecRestrict, if_neg hversion, if_neg hjoin, if_neg hwlist] at hkept ⊢
  simp only [if_neg hsome, if_neg hadd] at hkept ⊢
  split at hkept
  · rename_i hnone
    rw [if_pos hnone]
    exact ⟨rfl, .inl hnone⟩
  · rename_i hcharged
    rw [if_neg hcharged]
    simp only [mccRecCharge, Bool.or_eq_false_iff] at hkept ⊢
    obtain ⟨hbefore, hservice, htotal⟩ := hkept
    refine ⟨?_, .inr htotal⟩
    rw [hservice, htotal, Bool.or_false, Bool.or_false]

/-- A record that is not charged and not discarded has no sources or removes them. -/
theorem mccRecRestrict_of_none (hcharge : mccRecToCharge wlist port rec = none)
    (hkept : (mccRecRestrict limits wlist port rec).2.discard = false)
    (hauth : (mccRecRestrict limits wlist port rec).2.unauth = false) :
    (mccRecRestrict limits wlist port rec).2.srcList.entries = [] ∨
      mccSrcListActionGet (((port.grp (mccRecRestrict limits wlist port rec).2.flwId
          (mccRecRestrict limits wlist port rec).2.da).map MccGrpEntry.fmode).getD .incl)
        (mccRecRestrict limits wlist port rec).2.smode = .rem := by
  rw [mccRecToCharge] at hcharge
  rw [mccRecRestrict] at hkept hauth ⊢
  split at hcharge
  · rename_i hversion
    rw [if_pos hversion] at hkept
    cases hkept
  · rename_i hversion
    rw [if_neg hversion] at hkept hauth ⊢
    split at hcharge
    · rename_i hleave
      rw [if_pos hleave]
      exact .inl hleave.2
    · rename_i hjoin
      rw [if_neg hjoin] at hkept hauth ⊢
      split at hcharge
      · rename_i hwlist
        rw [if_pos hwlist] at hauth
        cases hauth
      · rename_i hwlist
        rw [if_neg hwlist] at hkept hauth ⊢
        simp only at hcharge hkept hauth ⊢
        split at hcharge
        · rename_i hnone
          rw [if_pos hnone] at hauth
          cases hauth
        · rename_i hsome
          rw [if_neg hsome] at hkept hauth ⊢
          split at hcharge
          · rename_i hrem
            rw [if_pos hrem]
            exact .inr hrem
          · cases hcharge

/-- The white list makes all entries of a record stand for all sources, or none. -/
theorem uniform_mccRecWlistApply (hplain : ∀ e ∈ rec.srcList.entries, e.ibwAny = false)
    (list : MccSrcList) : Uniform (mccRecWlistApply list rec).srcList.entries := by
  unfold mccRecWlistApply
  split
  · exact .inr hplain
  · split
    · refine .inl fun e he => ?_
      obtain ⟨_, _, rfl⟩ := List.mem_map.mp he
      rfl
    · split
      · refine .inr fun e he => ?_
        obtain ⟨_, _, rfl⟩ := List.mem_map.mp he
        rfl
      · refine .inr fun e he => ?_
        obtain ⟨r, hr, rfl⟩ := List.mem_map.mp he
        exact hplain r (List.mem_of_mem_filter hr)

/-- The entries of a record that was read do not stand for all sources. -/
theorem plain_mccRecGet {pkt : MccPktRec} (hrec : mccRecGet pkt = some rec) :
    ∀ e ∈ rec.srcList.entries, e.ibwAny = false := by
  obtain ⟨⟨fmode, smode⟩, _, rfl⟩ := Option.map_eq_some_iff.mp hrec
  have hadd : ∀ (sas : List MccIpAddr) (list : MccSrcList),
      (∀ e ∈ list.entries, e.ibwAny = false) →
      ∀ e ∈ (sas.foldl (fun list sa => list.add ⟨sa, 0, false, false⟩) list).entries,
        e.ibwAny = false := by
    intro sas
    induction sas with
    | nil => exact fun _ hlist => hlist
    | cons sa rest ih =>
        intro list hlist
        refine ih _ fun e he => ?_
        rcases MccSrcList.mem_add he with hold | rfl
        · exact hlist e hold
        · rfl
  exact hadd _ .empty nofun

end Charge

/-! ## Events -/

/-- What `mcc_rec_process` gives to `mcc_rec_restrict`. -/
def MccEnv.restricts (env : MccEnv) (rec : MccRec) : Option (MccLimits × MccOmciWlist × MccRec) :=
  match env.svid rec, env.portMe with
  | some svid, .found limits (some wlist) =>
      (env.fid (env.wlistSvid wlist svid)).map fun flwId => (limits, wlist, { rec with flwId })
  | _, _ => none

/-- The record that an event charges to the port. -/
def MccPortEvent.charges (port : MccPort) : MccPortEvent → Option MccRec
  | .report env pkt =>
      (mccRecGet pkt).bind fun rec =>
        (env.restricts rec).bind fun (_, wlist, given) => mccRecToCharge wlist port given
  | _ => none

def MccLimits.Binds (limits : MccLimits) : Prop :=
  limits.maxSimultaneousGroup ≠ 0 ∨ limits.bwEnforcement = true ∧ limits.maxMcBw ≠ 0

/-- The port is configured with the limits; without the entity it has none. -/
def MccPortMe.Configures (limits : MccLimits) : MccPortMe → Prop
  | .found configured _ => configured = limits
  | .notFound => ¬ limits.Binds
  | .error => True

/-- The port is within its limits. -/
def Within (limits : MccLimits) (port : MccPort) : Prop :=
  (limits.maxSimultaneousGroup ≠ 0 →
      port.weigh streamWeight ≤ limits.maxSimultaneousGroup.toNat) ∧
    (limits.bwEnforcement = true → limits.maxMcBw ≠ 0 →
      port.weigh ibwWeight ≤ limits.maxMcBw.toNat)

abbrev MccPort.charged (port : MccPort) (rec : MccRec) : List MccSrcEntry :=
  mccCharged (port.grp rec.flwId rec.da) rec.srcList.entries

/-- What is asked of an event: the port is within its limits afterwards, the sums that the record
is checked with are right, and no stream is charged that the port has. -/
structure Admits (limits : MccLimits) (port : MccPort) (event : MccPortEvent) (after : MccPort) :
    Prop where
  within : Within limits after
  sums : ∀ rec ∈ event.charges port,
    ((mccPortTotalCapacityGet port).plus (mccIncr port rec)).str.toNat =
        port.weigh streamWeight + (port.charged rec).length ∧
      ((mccPortTotalCapacityGet port).plus (mccIncr port rec)).ibw.toNat =
        port.weigh ibwWeight + ((port.charged rec).map ibwWeight).sum
  once : ∀ rec ∈ event.charges port, ∀ e ∈ port.charged rec,
    ∀ grp ∈ port.grp rec.flwId rec.da, e.sa ∉ addrs grp.srcLinkList

/-- A record can be charged: the streams fit into memory, and the look-up finds those that the
group has. -/
def ChargeGuard (port : MccPort) (rec : MccRec) : Prop :=
  port.weigh streamWeight + rec.srcList.entries.length < 2 ^ 32 ∧
    ∀ e ∈ rec.srcList.entries, e.ibwAny = false → ∀ grp ∈ port.grp rec.flwId rec.da,
      e.sa ∈ addrs grp.srcLinkList → (mccGrpSrcFind grp e.sa).isSome

/-- A record adds no more than what is charged: it is authorized, it is of the kind of the
clients of its group, its sources have one price, and the charge covers them. -/
structure RecordGuard (limits : MccLimits) (port : MccPort) (rec : MccRec) : Prop where
  authorized : rec.unauth = false
  kind : Including (port.grpFor rec).cltList rec ∨ AnySource (port.grpFor rec).cltList rec
  priced : limits.bwEnforcement = true → limits.maxMcBw ≠ 0 →
    Priced (port.grpFor rec).cltList rec
  covers : rec.smode ≠ some .block →
    Covers (port.grp rec.flwId rec.da) rec.srcList.entries

/-- The condition on an event. -/
def AdmissionGuard (limits : MccLimits) (port : MccPort) (event : MccPortEvent) : Prop :=
  (∀ rec ∈ event.charges port, ChargeGuard port rec) ∧
    match event with
    | .report env pkt =>
        env.portMe.Configures limits ∧
          (limits.Binds → ∀ rec ∈ mccRecGet pkt, (mccRecCheck env port rec).accepted = true →
            env.addrTable = .accepted → RecordGuard limits port (mccRecCheck env port rec).record)
    | _ => True

section Event

variable {env : MccEnv} {limits : MccLimits} {wlist : MccOmciWlist} {port : MccPort}
  {rec given : MccRec}

theorem mccRecCheck_of_restricts (port : MccPort)
    (h : env.restricts rec = some (limits, wlist, given)) :
    env.portMe = .found limits (some wlist) ∧
      mccRecCheck env port rec =
        ⟨(mccRecRestrict limits wlist port given).1,
          { (mccRecRestrict limits wlist port given).2 with passUnauth := wlist.passUnauth },
          !(mccRecRestrict limits wlist port given).2.discard &&
            (!(mccRecRestrict limits wlist port given).2.unauth || env.iopOption0)⟩ := by
  unfold MccEnv.restricts at h
  split at h
  · rename_i svid limits' wlist' hsvid hme
    obtain ⟨flwId, hfid, hgiven⟩ := Option.map_eq_some_iff.mp h
    cases hgiven
    refine ⟨hme, ?_⟩
    simp only [mccRecCheck, hsvid, hme, hfid]
  · cases h

theorem portMe_of_accepted (h : env.restricts rec = none)
    (haccepted : (mccRecCheck env port rec).accepted = true) : env.portMe = .notFound := by
  unfold MccEnv.restricts at h
  unfold mccRecCheck at haccepted
  cases hsvid : env.svid rec with
  | none =>
      rw [hsvid] at haccepted
      cases haccepted
  | some svid =>
      cases hme : env.portMe with
      | notFound => rfl
      | error =>
          rw [hsvid, hme] at haccepted
          cases haccepted
      | found limits wlist =>
          cases wlist with
          | none =>
              rw [hsvid, hme] at haccepted
              cases haccepted
          | some wlist =>
              rw [hsvid, hme] at h haccepted
              have hfid : env.fid (env.wlistSvid wlist svid) = none := Option.map_eq_none_iff.mp h
              simp only [hfid] at haccepted
              cases haccepted

theorem of_mccRecToCharge (h : mccRecToCharge wlist port given = some rec) :
    rec = mccRecWlistApply wlist.srcList given ∧
      mccSrcListActionGet (((port.grp rec.flwId rec.da).map MccGrpEntry.fmode).getD .incl)
        rec.smode ≠ .rem := by
  obtain ⟨_, h⟩ := Option.ite_none_left_eq_some.mp h
  obtain ⟨_, h⟩ := Option.ite_none_left_eq_some.mp h
  obtain ⟨_, h⟩ := Option.ite_none_left_eq_some.mp h
  obtain ⟨_, h⟩ := Option.ite_none_left_eq_some.mp h
  obtain ⟨hadd, h⟩ := Option.ite_none_left_eq_some.mp h
  cases h
  exact ⟨rfl, hadd⟩

theorem plain_of_restricts {pkt : MccPktRec} (hrec : mccRecGet pkt = some rec)
    (h : env.restricts rec = some (limits, wlist, given)) :
    ∀ e ∈ given.srcList.entries, e.ibwAny = false := by
  unfold MccEnv.restricts at h
  split at h
  · obtain ⟨flwId, _, hgiven⟩ := Option.map_eq_some_iff.mp h
    cases hgiven
    exact fun e he => plain_mccRecGet hrec e he
  · cases h

theorem uniform_of_charges {event : MccPortEvent} (h : rec ∈ event.charges port) :
    Uniform rec.srcList.entries := by
  cases event with
  | report env pkt =>
      obtain ⟨read, hread, h⟩ := Option.bind_eq_some_iff.mp h
      obtain ⟨⟨limits, wlist, given⟩, hrestricts, hcharge⟩ := Option.bind_eq_some_iff.mp h
      rw [(of_mccRecToCharge hcharge).1]
      exact uniform_mccRecWlistApply (plain_of_restricts hread hrestricts) wlist.srcList
  | aging fid da => cases h
  | clear => cases h

theorem weigh_ibwWeight_le (port : MccPort) :
    port.weigh ibwWeight ≤ 2 ^ 32 * port.weigh streamWeight := by
  refine sum_map_le_mul (fun flw => sum_map_le_mul (fun grp => sum_map_le_mul (fun e => ?_) _) _) _
  rw [ibwWeight, streamWeight, Nat.mul_one]
  exact e.ibw.isLt.le

/-- The sums that a record is checked with do not overflow. -/
theorem sums_of_chargeGuard (hport : port.WellFormed) (hlist : Uniform rec.srcList.entries)
    (hguard : ChargeGuard port rec) :
    ((mccPortTotalCapacityGet port).plus (mccIncr port rec)).str.toNat =
        port.weigh streamWeight + (port.charged rec).length ∧
      ((mccPortTotalCapacityGet port).plus (mccIncr port rec)).ibw.toNat =
        port.weigh ibwWeight + ((port.charged rec).map ibwWeight).sum := by
  have hcharged : ((port.charged rec).map ibwWeight).sum ≤ 2 ^ 32 * (port.charged rec).length := by
    rw [← sum_streamWeight]
    refine sum_map_le_mul (fun e => ?_) _
    rw [ibwWeight, streamWeight, Nat.mul_one]
    exact e.ibw.isLt.le
  have hlength : (port.charged rec).length ≤ rec.srcList.entries.length :=
    mccCharged_sublist.length_le
  have hibw := weigh_ibwWeight_le port
  have hroom := hguard.1
  rw [mccPortTotalCapacityGet_eq hport, mccIncr, mccCapIncr_eq hlist, MccCapacity.plus]
  simp only [← BitVec.ofNat_add, BitVec.toNat_ofNat, MccPort.charged] at hcharged hlength ⊢
  constructor
  · exact Nat.mod_eq_of_lt (by omega)
  · exact Nat.mod_eq_of_lt (by omega)

theorem once_of_chargeGuard (hguard : ChargeGuard port rec) {e : MccSrcEntry}
    (he : e ∈ port.charged rec) {grp : MccGrpEntry} (hgrp : grp ∈ port.grp rec.flwId rec.da) :
    e.sa ∉ addrs grp.srcLinkList := by
  intro hlisted
  rcases mem_mccCharged he with hnone | ⟨hplain, hfind⟩
  · rw [hnone] at hgrp
    cases hgrp
  · have hfound := hguard.2 e (mccCharged_sublist.mem he) hplain grp hgrp hlisted
    rw [hfind grp hgrp] at hfound
    cases hfound

/-- The port has room for what a record charges that is kept. -/
def Room (limits : MccLimits) (port : MccPort) (charged : List MccSrcEntry) : Prop :=
  (limits.maxSimultaneousGroup ≠ 0 →
      port.weigh streamWeight + (charged.map streamWeight).sum ≤
        limits.maxSimultaneousGroup.toNat) ∧
    (limits.bwEnforcement = true → limits.maxMcBw ≠ 0 →
      port.weigh ibwWeight + (charged.map ibwWeight).sum ≤ limits.maxMcBw.toNat)

theorem Within.room_nil (hwithin : Within limits port) : Room limits port [] := hwithin

theorem toNat_maxStr : (mccOmciPortTotalCapacityGet limits).str.toNat =
    limits.maxSimultaneousGroup.toNat :=
  BitVec.toNat_setWidth_of_le (by decide)

theorem toNat_maxIbw : (mccOmciPortTotalCapacityGet limits).ibw.toNat = limits.maxMcBw.toNat :=
  BitVec.toNat_setWidth_of_le (by decide)

theorem maxStr_eq_zero (hzero : (mccOmciPortTotalCapacityGet limits).str = 0) :
    limits.maxSimultaneousGroup = 0 :=
  BitVec.eq_of_toNat_eq (by rw [← toNat_maxStr, hzero]; rfl)

theorem maxIbw_eq_zero (hzero : (mccOmciPortTotalCapacityGet limits).ibw = 0) :
    limits.maxMcBw = 0 :=
  BitVec.eq_of_toNat_eq (by rw [← toNat_maxIbw, hzero]; rfl)

/-- A charged record that is kept fits into the limits. -/
theorem room_of_charged (hport : port.WellFormed) (hwithin : Within limits port)
    (hcharge : mccRecToCharge wlist port given = some rec)
    (hlist : Uniform rec.srcList.entries) (hguard : ChargeGuard port rec)
    (hkept : (mccRecRestrict limits wlist port given).2.discard = false) :
    Room limits port (port.charged rec) := by
  obtain ⟨hstr, hibw⟩ := sums_of_chargeGuard hport hlist hguard
  rcases (mccRecRestrict_of_toCharge hcharge hkept).2 with hnone | hchecked
  · have hnil : port.charged rec = [] := by
      have hlength : (port.charged rec).length ≤ rec.srcList.entries.length :=
        mccCharged_sublist.length_le
      have hroom := hguard.1
      rw [mccIncr, mccCapIncr_eq hlist] at hnone
      have hzero : (port.charged rec).length % 2 ^ 32 = 0 := congrArg BitVec.toNat hnone
      rw [Nat.mod_eq_of_lt (by omega)] at hzero
      exact List.eq_nil_of_length_eq_zero hzero
    rw [hnil]
    exact hwithin.room_nil
  · obtain ⟨hmaxStr, hmaxIbw⟩ := not_or.mp (of_decide_eq_false hchecked)
    constructor
    · intro hmax
      rw [sum_streamWeight, ← hstr, ← toNat_maxStr]
      by_contra hmore
      exact hmaxStr ⟨fun hzero => hmax (maxStr_eq_zero hzero), BitVec.lt_def.mpr (by omega)⟩
    · intro henf hmax
      rw [← hibw, ← toNat_maxIbw]
      by_contra hmore
      exact hmaxIbw ⟨fun hzero => hmax (maxIbw_eq_zero hzero), BitVec.lt_def.mpr (by omega), henf⟩

theorem RecordGuard.listed_or_charged (hguard : RecordGuard limits port rec)
    (hlist : Uniform rec.srcList.entries) (hallow : rec.smode ≠ some .block) :
    ∀ r ∈ rec.srcList.entries,
      r.sa ∈ addrs (port.grpFor rec).srcLinkList ∨ r ∈ port.charged rec := by
  intro r hr
  refine ((hguard.covers hallow).listed_or_charged hlist hr).imp_left ?_
  rintro ⟨found, hfound, hlisted⟩
  rw [MccPort.grpFor, Option.mem_def.mp hfound]
  exact hlisted

/-- A record that removes sources blocks them. -/
theorem RecordGuard.block_of_rem (hguard : RecordGuard limits port rec) (hport : port.WellFormed)
    (hrem : mccSrcListActionGet (((port.grp rec.flwId rec.da).map MccGrpEntry.fmode).getD .incl)
      rec.smode = .rem) : rec.smode = some .block := by
  rcases hguard.kind with hincl | hany
  · have hmode : ((port.grp rec.flwId rec.da).map MccGrpEntry.fmode).getD .incl = .incl := by
      cases hgrp : port.grp rec.flwId rec.da with
      | none => rfl
      | some grp =>
          obtain ⟨flw, hflw, hfind⟩ := Option.bind_eq_some_iff.mp hgrp
          have hrefreshed := (hport flw (mem_findKey hflw) grp (mem_findKey hfind)).1
          refine hrefreshed.fmode_of_forall fun clt hclt => hincl.1 clt ?_
          rw [MccPort.grpFor, hgrp]
          exact hclt
    rw [hmode] at hrem
    cases hsmode : rec.smode with
    | none =>
        rw [hsmode] at hrem
        cases hrem
    | some smode =>
        rw [hsmode] at hrem
        cases smode with
        | allow => cases hrem
        | block => rfl
  · rw [hany.2.1] at hrem
    cases hrem

/-- A record whose charge fits keeps the port within its limits. -/
theorem RecordGuard.within (hguard : RecordGuard limits port rec) (hport : port.WellFormed)
    {charged : List MccSrcEntry} (hsub : charged ⊆ rec.srcList.entries)
    (hcharged : rec.smode ≠ some .block → ∀ r ∈ rec.srcList.entries,
      r.sa ∈ addrs (port.grpFor rec).srcLinkList ∨ r ∈ charged)
    (hroom : Room limits port charged) {after : MccPort}
    (hafter : after.flwList = mccFlwUpdate rec port.flwList) : Within limits after := by
  constructor
  · intro hmax
    have hle := weigh_mccFlwUpdate_le hport (w := streamWeight) (fun _ => rfl)
      (fun _ _ _ _ _ => rfl) hguard.kind hsub hcharged
    rw [MccPort.weigh, hafter]
    exact hle.trans (hroom.1 hmax)
  · intro henf hmax
    have hle := weigh_mccFlwUpdate_le hport (w := ibwWeight) (fun _ => rfl)
      (fun y hy z hz hsame => congrArg BitVec.toNat (hguard.priced henf hmax y hy z hz hsame))
      hguard.kind hsub hcharged
    rw [MccPort.weigh, hafter]
    exact hle.trans (hroom.2 henf hmax)

/-- A report keeps the port within its limits. -/
theorem within_report {pkt : MccPktRec} (hport : port.WellFormed) (hwithin : Within limits port)
    (hguard : AdmissionGuard limits port (.report env pkt)) (hrec : mccRecGet pkt = some rec) :
    Within limits (mccPortProcess env port rec) := by
  obtain ⟨hcharges, hconfigured, hrecord⟩ := hguard
  by_cases hbinds : limits.Binds
  · unfold mccPortProcess
    simp only
    split
    · rename_i hupdates
      obtain ⟨haccepted, haddr⟩ := (Bool.and_eq_true _ _).mp hupdates
      have hguard := hrecord hbinds rec hrec haccepted (of_decide_eq_true haddr)
      have hflw : (mccRecCheck env port rec).port.flwList = port.flwList :=
        mccRecCheck_flwList env port rec
      cases hrestricts : env.restricts rec with
      | none =>
          rw [portMe_of_accepted hrestricts haccepted] at hconfigured
          exact absurd hbinds hconfigured
      | some given =>
          obtain ⟨configured, wlist, given⟩ := given
          obtain ⟨hme, hcheck⟩ := mccRecCheck_of_restricts port hrestricts
          rw [hme] at hconfigured
          cases hconfigured
          rw [hflw]
          rw [hcheck] at haccepted hguard ⊢
          have hauth := hguard.authorized
          have hkept : (mccRecRestrict limits wlist port given).2.discard = false :=
            Bool.not_eq_true' _ |>.mp ((Bool.and_eq_true _ _).mp haccepted).1
          cases hcharge : mccRecToCharge wlist port given with
          | none =>
              have hrem := mccRecRestrict_of_none hcharge hkept hauth
              refine hguard.within hport (List.nil_subset _) (fun hallow r hr => ?_)
                hwithin.room_nil rfl
              rcases hrem with hnone | hrem
              · rw [hnone] at hr
                cases hr
              · exact absurd (hguard.block_of_rem hport hrem) hallow
          | some applied =>
              have hsame := (mccRecRestrict_of_toCharge hcharge hkept).1
              have happlied : applied ∈ (MccPortEvent.report env pkt).charges port := by
                simp only [MccPortEvent.charges, hrec, Option.bind_some, hrestricts, hcharge,
                  Option.mem_def]
              have hlist := uniform_of_charges happlied
              have hroom := room_of_charged hport hwithin hcharge hlist (hcharges applied happlied)
                hkept
              rw [hsame] at hguard ⊢
              exact hguard.within hport mccCharged_sublist.subset
                (hguard.listed_or_charged hlist) hroom rfl
    · refine ⟨fun hmax => ?_, fun henf hmax => ?_⟩
      · rw [MccPort.weigh, mccRecCheck_flwList]
        exact hwithin.1 hmax
      · rw [MccPort.weigh, mccRecCheck_flwList]
        exact hwithin.2 henf hmax
  · exact ⟨fun hmax => absurd (.inl hmax) hbinds,
      fun henf hmax => absurd (.inr ⟨henf, hmax⟩) hbinds⟩

theorem weigh_mccPortAging_le (w : MccSrcEntry → Nat) (fid : BitVec 8) (da : MccIpAddr) :
    (mccPortAging port fid da).weigh w ≤ port.weigh w := by
  rw [MccPort.weigh, MccPort.weigh, mccPortAging]
  simp only [List.map_map]
  refine List.sum_le_sum fun flw _ => ?_
  simp only [Function.comp_apply]
  split
  · exact (List.eraseP_sublist.map _).sum_le_sum fun _ _ => Nat.zero_le _
  · exact le_rfl

/-- One event. -/
theorem admits_step {event : MccPortEvent} (hport : port.WellFormed) (hwithin : Within limits port)
    (hguard : AdmissionGuard limits port event) :
    Admits limits port event (mccPortStep port event) where
  within := by
    cases event with
    | report env pkt =>
        rw [mccPortStep]
        cases hrec : mccRecGet pkt with
        | none => exact hwithin
        | some rec => exact within_report hport hwithin hguard hrec
    | aging fid da =>
        exact ⟨fun hmax => (weigh_mccPortAging_le _ fid da).trans (hwithin.1 hmax),
          fun henf hmax => (weigh_mccPortAging_le _ fid da).trans (hwithin.2 henf hmax)⟩
    | clear => exact ⟨fun _ => Nat.zero_le _, fun _ _ => Nat.zero_le _⟩
  sums := fun rec hrec =>
    sums_of_chargeGuard hport (uniform_of_charges hrec) (hguard.1 rec hrec)
  once := fun rec hrec _ he _ hgrp => once_of_chargeGuard (hguard.1 rec hrec) he hgrp

end Event

def Admitted (limits : MccLimits) (port : MccPort) : Prop :=
  port.WellFormed ∧ Within limits port

/-- In every run of joins, leaves and timeouts on a port whose events meet the condition, the port
is within its limits after every event, the sums are right, and no stream is charged
twice. -/
theorem mccPort_admission {limits : MccLimits} {events : List MccPortEvent}
    (hguard : Along (fun port event => some (mccPortStep port event))
      (fun port event _ => AdmissionGuard limits port event) mccPortClear events) :
    Along (fun port event => some (mccPortStep port event)) (Admits limits) mccPortClear events := by
  have hstart : Admitted limits mccPortClear :=
    ⟨MccPort.AllGrps.clear, fun _ => Nat.zero_le _, fun _ _ => Nat.zero_le _⟩
  refine Along.of_guard (fun before event after hbefore hevent hnext => ?_) hstart hguard
  obtain ⟨hport, hwithin⟩ := hbefore
  have hadmits := admits_step hport hwithin hevent
  cases hnext
  exact ⟨hadmits, hport.step event, hadmits.within⟩

/-! ## Runs on a port with limits -/

section Decidable

variable (limits : MccLimits) (port : MccPort) (rec : MccRec)

instance : Decidable limits.Binds := inferInstanceAs (Decidable (_ ∨ _))

instance : Decidable (Priced (port.grpFor rec).cltList rec) :=
  inferInstanceAs (Decidable (∀ _ ∈ _, ∀ _ ∈ _, _))

instance (grp : Option MccGrpEntry) (list : List MccSrcEntry) : Decidable (Covers grp list) :=
  inferInstanceAs (Decidable (∀ _ ∈ _, _))

instance : Decidable (ChargeGuard port rec) := inferInstanceAs (Decidable (_ ∧ _))

instance : Decidable (RecordGuard limits port rec) :=
  decidable_of_iff (rec.unauth = false ∧
    (Including (port.grpFor rec).cltList rec ∨ AnySource (port.grpFor rec).cltList rec) ∧
    (limits.bwEnforcement = true → limits.maxMcBw ≠ 0 → Priced (port.grpFor rec).cltList rec) ∧
    (rec.smode ≠ some .block → Covers (port.grp rec.flwId rec.da) rec.srcList.entries))
    ⟨fun h => ⟨h.1, h.2.1, h.2.2.1, h.2.2.2⟩,
      fun h => ⟨h.authorized, h.kind, h.priced, h.covers⟩⟩

instance : (me : MccPortMe) → Decidable (me.Configures limits)
  | .found _ _ => inferInstanceAs (Decidable (_ = _))
  | .notFound => inferInstanceAs (Decidable (¬ _))
  | .error => isTrue trivial

instance : (event : MccPortEvent) → Decidable (AdmissionGuard limits port event)
  | .report _ _ => inferInstanceAs (Decidable (_ ∧ _ ∧ (_ → ∀ _ ∈ _, _ → _ → _)))
  | .aging _ _ => inferInstanceAs (Decidable (_ ∧ True))
  | .clear => inferInstanceAs (Decidable (_ ∧ True))

end Decidable

/-- A report on a port with limits and a white list. -/
def limitedReport (limits : MccLimits) (list : MccSrcList) (ga ca : MccIpAddr)
    (recType : MccProtRecType) (sas : List MccIpAddr) : MccPortEvent :=
  .report { sampleEnv with portMe := .found limits (some { sampleWlist with srcList := list }) }
    ⟨4, 0, 0, 0, ga, ca, recType, sas⟩

def sampleList : MccSrcList := ⟨[⟨7, 40, false, false⟩, ⟨8, 60, false, false⟩], by decide⟩

/-- Under a wildcard a record with two sources is charged as one stream. -/
theorem mccPort_not_admission :
    ¬ ∀ (limits : MccLimits) (events : List MccPortEvent),
      (∀ env pkt, .report env pkt ∈ events → env.portMe.Configures limits) →
        Along (fun port event => some (mccPortStep port event)) (Admits limits) mccPortClear
          events := by
  intro hall
  have hrun := hall ⟨1, 0, false⟩
    [limitedReport ⟨1, 0, false⟩ (sampleSource mccIpAny) 0xe1 1 .changeToInclude [7, 8]]
    (fun env pkt hevent => by
      cases List.mem_singleton.mp hevent
      rfl)
  have hstreams : (mccPortStep mccPortClear (limitedReport ⟨1, 0, false⟩ (sampleSource mccIpAny)
      0xe1 1 .changeToInclude [7, 8])).weigh streamWeight = 2 := by
    decide
  have hwithin := hrun.1.within.1 (by decide)
  rw [hstreams] at hwithin
  exact absurd hwithin (by decide)

/-- A second client that joins for a stream of the port is charged for it, and refused. -/
example : ([limitedReport ⟨1, 0, false⟩ sampleList 0xe1 1 .changeToInclude [7],
    limitedReport ⟨1, 0, false⟩ sampleList 0xe1 2 .changeToInclude [7]].foldl mccPortStep
      mccPortClear).clts 1 0xe1 = [⟨1, ⟨[⟨7, 40, false, false⟩], by decide⟩, .incl, none, false⟩] := by
  decide

/-- A list and a wildcard group: both limits are reached, a client leaves, and another joins. -/
theorem mccPort_admission_run :
    Along (fun port event => some (mccPortStep port event)) (Admits ⟨2, 100, true⟩) mccPortClear
      [limitedReport ⟨2, 100, true⟩ sampleList 0xe1 1 .changeToInclude [7],
        limitedReport ⟨2, 100, true⟩ sampleList 0xe1 2 .allowNewSources [8],
        limitedReport ⟨2, 100, true⟩ (sampleSource mccIpAny) 0xe2 3 .changeToExclude [],
        limitedReport ⟨2, 100, true⟩ sampleList 0xe1 1 .changeToInclude [],
        limitedReport ⟨2, 100, true⟩ (sampleSource mccIpAny) 0xe2 3 .changeToExclude [],
        .aging 1 0xe1] :=
  mccPort_admission (by decide)

end FalconGpon.Mcc
