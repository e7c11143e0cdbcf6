/-
# Static flows

What is to be kept of a flow that `mcc_port_static_flow_create` has put on a port, and which
changes of its client keep it (`spares_iff`). A change of another client or of another group
does not touch it: a group stays as long as it has a client.
-/

import FalconGpon.Mcc.ClientSources
import FalconGpon.Mcc.FlowControl
import FalconGpon.Mcc.Streams

namespace FalconGpon.Mcc

open FalconGpon.Lib

/-! ## What the flow asks for -/

/-- A flow that was created: its group, its client and its source, 0.0.0.0 for all sources. -/
structure StaticFlow where
  key : MccGrpKey
  ca : MccIpAddr
  sa : MccIpAddr
deriving DecidableEq

def MccMcFlow.staticFlow (flow : MccMcFlow) (port : Nat) (fid : BitVec 8) : StaticFlow :=
  ⟨⟨port, fid, mccIpAddrGet flow.da⟩, mccIpAddrGet flow.ca, mccIpAddrGet flow.sa⟩

def MccCltEntry.Receives (clt : MccCltEntry) (sa : MccIpAddr) : Prop :=
  if sa = mccIpAny then clt.filter = ⟨.excl, ∅⟩ else clt.filter.Passes sa

/-- The flow is in the lists of its port, and the device forwards its group there. -/
structure MccState.Keeps {D : Type*} (drv : MccDriver D) (s : MccState D) (flow : StaticFlow) :
    Prop where
  listed : ∃ grp ∈ s.grp flow.key, grp.isStatic = true ∧
    ∃ clt ∈ mccCltFind grp.cltList flow.ca, clt.isStatic = true ∧ clt.Receives flow.sa
  forwarded : drv.Forwards s.dev flow.key.port flow.key.fid (mccIpv4 flow.key.da)

/-! ## Changes that leave it -/

namespace MccFlowOp

/-- The client lists an address after the change. -/
def Lists (op : MccFlowOp) (clt : MccCltEntry) (sa : MccIpAddr) : Prop :=
  match mccSrcListActionGet (op.setModes clt).fmode (op.setModes clt).smode with
  | .add => sa ∈ addrs op.srcList.entries ∨
      (op.setModes clt).smode ≠ none ∧ sa ∈ addrs clt.srcList.entries
  | .rem => ∃ e ∈ clt.srcList.entries, e.sa = sa ∧
      ¬ (sa ∈ addrs op.srcList.entries ∧ e.isStatic = clt.isStatic)

/-- After the change the client still asks for what it asks for: it includes the source by
name; or it excludes others, and none if it asks for all. -/
def Spares (op : MccFlowOp) (clt : MccCltEntry) (sa : MccIpAddr) : Prop :=
  match (op.setModes clt).fmode with
  | .incl => op.srcList.entries ≠ [] ∧ sa ≠ mccIpAny ∧ op.Lists clt sa
  | .excl =>
      ((op.setModes clt).smode = some .block →
        op.srcList.entries ≠ [] ∨ clt.srcList.entries ≠ []) ∧
      if sa = mccIpAny then ∀ other, op.Lists clt other → other = mccIpAny
      else ¬ op.Lists clt sa

end MccFlowOp

variable {clt : MccCltEntry}

theorem receives_incl {sa : MccIpAddr} (hmode : clt.fmode = .incl) :
    clt.Receives sa ↔ sa ≠ mccIpAny ∧ sa ∈ addrs clt.srcList.entries := by
  unfold MccCltEntry.Receives
  by_cases hany : sa = mccIpAny
  · simp [hany, MccCltEntry.filter, hmode]
  · simp [hany, MccCltEntry.filter, hmode, SourceFilter.Passes, sources]

theorem receives_excl {sa : MccIpAddr} (hmode : clt.fmode = .excl) :
    clt.Receives sa ↔ if sa = mccIpAny then ∀ other ∈ addrs clt.srcList.entries, other = mccIpAny
      else sa ∉ addrs clt.srcList.entries := by
  unfold MccCltEntry.Receives
  by_cases hany : sa = mccIpAny
  · rw [if_pos hany, if_pos hany, MccCltEntry.filter, hmode, SourceFilter.mk.injEq,
      and_iff_right rfl, Set.eq_empty_iff_forall_notMem]
    refine forall_congr' fun other => ?_
    rw [sources, Set.mem_ofPred_eq, not_and, not_ne_iff]
  · simp [hany, MccCltEntry.filter, hmode, SourceFilter.Passes, sources]

section Refresh

variable {sa : MccIpAddr}

theorem mem_addrs_mccCltOwn {op : MccFlowOp} :
    sa ∈ addrs (mccCltOwn op.srcList (op.setModes clt)).entries ↔ op.Lists clt sa := by
  have hown := @mem_addrs_own (op.setModes clt) (addrs op.srcList.entries) sa
    (op.setModes clt).fmode op.srcList (op.setModes clt).smode fun _ => Iff.rfl
  refine hown.trans ?_
  unfold MccCltEntry.Lists MccFlowOp.Lists
  cases mccSrcListActionGet (op.setModes clt).fmode (op.setModes clt).smode with
  | add => exact Iff.rfl
  | rem => exact mem_left

/-- The change leaves the client as it is asked to if and only if it spares it. -/
theorem spares_iff {op : MccFlowOp} :
    (∃ after, mccCltRefresh op.srcList (op.setModes clt) = some after ∧ after.Receives sa) ↔
      op.Spares clt sa := by
  unfold MccFlowOp.Spares
  cases hmode : (op.setModes clt).fmode with
  | incl =>
      simp only [mccCltRefresh_incl hmode]
      have hafter : ({ op.setModes clt with
          srcList := (mccCltOwn op.srcList (op.setModes clt)).erase mccIpAny } :
            MccCltEntry).fmode = .incl := hmode
      constructor
      · rintro ⟨_, ⟨⟨_, hlist⟩, rfl⟩, hreceives⟩
        obtain ⟨hany, hsa⟩ := (receives_incl hafter).mp hreceives
        exact ⟨hlist, hany, mem_addrs_mccCltOwn.mp (mem_addrs_erase.mp hsa).1⟩
      · rintro ⟨hlist, hany, hlists⟩
        have hsa := mem_addrs_erase.mpr ⟨mem_addrs_mccCltOwn.mpr hlists, hany⟩
        exact ⟨_, ⟨⟨exists_mem_addrs.mp ⟨sa, hsa⟩, hlist⟩, rfl⟩,
          (receives_incl hafter).mpr ⟨hany, hsa⟩⟩
  | excl =>
      simp only [mccCltRefresh_excl hmode]
      have hblock : (op.setModes clt).smode = some .block →
          ((mccCltOwn op.srcList (op.setModes clt)).entries ≠ [] ↔
            op.srcList.entries ≠ [] ∨ clt.srcList.entries ≠ []) := by
        intro hsmode
        rw [← exists_mem_addrs, ← exists_mem_addrs, ← exists_mem_addrs, ← exists_or]
        refine exists_congr fun other => ?_
        rw [mem_addrs_mccCltOwn, MccFlowOp.Lists, hmode, hsmode]
        simp [mccSrcListActionGet]
      have hreceives : ({ op.setModes clt with
            srcList := mccCltOwn op.srcList (op.setModes clt) } : MccCltEntry).Receives sa ↔
          if sa = mccIpAny then ∀ other, op.Lists clt other → other = mccIpAny
          else ¬ op.Lists clt sa := by
        have hafter : ({ op.setModes clt with
            srcList := mccCltOwn op.srcList (op.setModes clt) } : MccCltEntry).fmode = .excl :=
          hmode
        rw [receives_excl hafter]
        simp only [mem_addrs_mccCltOwn]
      constructor
      · rintro ⟨_, ⟨hkept, rfl⟩, hafter⟩
        exact ⟨fun hsmode => (hblock hsmode).mp (hkept hsmode), hreceives.mp hafter⟩
      · rintro ⟨hkept, hafter⟩
        exact ⟨_, ⟨fun hsmode => (hblock hsmode).mpr (hkept hsmode), rfl⟩, hreceives.mpr hafter⟩

end Refresh

/-! ## Groups -/

def MccGrpEntry.Solid (grp : MccGrpEntry) : Prop :=
  ∀ clt ∈ grp.cltList, clt.fmode = .incl → clt.srcList.entries ≠ []

def MccFlowOp.changed (op : MccFlowOp) (found : Option MccGrpEntry) : MccGrpEntry :=
  let grp := found.getD ⟨op.da, [], [], .incl, op.isStatic⟩
  { grp with cltList := mccCltApply op grp.cltList }

def MccFlowOp.cltOf (op : MccFlowOp) (found : Option MccGrpEntry) : MccCltEntry :=
  (found.bind fun grp => mccCltFind grp.cltList op.ca).getD
    ⟨op.ca, .empty, .incl, none, op.isStatic⟩

section Groups

variable {op : MccFlowOp} {port : MccPort} {grp after : MccGrpEntry}

/-- A group with clients stays. -/
theorem mccGrpRefresh_of_solid (hsolid : grp.Solid) (hclts : grp.cltList ≠ []) :
    mccGrpRefresh grp = some (mccGrpStateUpdate grp) := by
  have hlast := List.getLast?_eq_some_getLast hclts
  have hmode : (mccGrpStateUpdate grp).fmode = (grp.cltList.getLast hclts).fmode := by
    rw [mccGrpStateUpdate_eq]
    simp only [walkMode_eq, List.getLast?_map, hlast]
    rfl
  rw [mccGrpRefresh, if_neg]
  rintro (⟨hincl, hsources⟩ | hnone)
  · -- the last client includes a source, and the union has it
    have hname := hsolid _ (List.getLast_mem hclts) (hmode.symm.trans hincl)
    obtain ⟨sa, hsa⟩ := exists_mem_addrs.mpr hname
    have hwalk : walkMode grp.fmode (grp.cltList.map MccCltEntry.record) = .incl := by
      rw [mccGrpStateUpdate_eq] at hincl
      exact hincl
    have hmem : sa ∈ addrs (mccGrpStateUpdate grp).srcLinkList := by
      rw [mccGrpStateUpdate_eq]
      simp only [hwalk]
      exact mem_walkSources_incl.mpr
        ⟨_, List.mem_map_of_mem (List.getLast_mem hclts), hsa⟩
    rw [hsources] at hmem
    cases hmem
  · exact hclts hnone

theorem solid_mccCltRefresh {srcList : MccSrcList} {clt refreshed : MccCltEntry}
    (h : mccCltRefresh srcList clt = some refreshed) (hmode : refreshed.fmode = .incl) :
    refreshed.srcList.entries ≠ [] := by
  have hbefore : clt.fmode = .incl := (mccCltRefresh_spec h).1.1.symm.trans hmode
  obtain ⟨⟨hne, _⟩, rfl⟩ := (mccCltRefresh_incl hbefore).mp h
  exact hne

theorem Solid.changed (op : MccFlowOp) {found : Option MccGrpEntry}
    (hfound : ∀ grp ∈ found, grp.Solid) : (op.changed found).Solid := by
  intro clt hclt
  rcases mem_upsert hclt with hold | hnew
  · cases found with
    | none => cases hold
    | some grp => exact hfound grp rfl clt hold
  · exact solid_mccCltRefresh hnew

theorem mccCltRefresh_frame {srcList : MccSrcList} {clt refreshed : MccCltEntry}
    (h : mccCltRefresh srcList clt = some refreshed) :
    refreshed.ca = clt.ca ∧ refreshed.isStatic = clt.isStatic := by
  obtain ⟨_, hafter⟩ := Option.ite_none_left_eq_some.mp h
  cases hafter
  exact ⟨rfl, rfl⟩

/-- A change that spares its client leaves it in the group. -/
theorem changed_clt {found : Option MccGrpEntry} {sa : MccIpAddr}
    (hspares : op.Spares (op.cltOf found) sa) :
    ∃ clt ∈ mccCltFind (op.changed found).cltList op.ca,
      clt.isStatic = (op.cltOf found).isStatic ∧ clt.Receives sa := by
  obtain ⟨clt, hclt, hreceives⟩ := spares_iff.mpr hspares
  obtain ⟨hca, hstatic⟩ := mccCltRefresh_frame hclt
  have hfind : (findKey MccCltEntry.ca op.ca (found.getD
      ⟨op.da, [], [], .incl, op.isStatic⟩).cltList).getD ⟨op.ca, .empty, .incl, none, op.isStatic⟩ =
        op.cltOf found := by
    cases found <;> rfl
  have hcltOf : (op.cltOf found).ca = op.ca := by
    rw [← hfind]
    cases hfound : findKey MccCltEntry.ca op.ca (found.getD
        ⟨op.da, [], [], .incl, op.isStatic⟩).cltList with
    | none => rfl
    | some clt => exact key_findKey hfound
  refine ⟨clt, ?_, hstatic, hreceives⟩
  refine findKey_upsert ?_ (hca.trans hcltOf)
  rw [hfind]
  exact hclt

theorem changed_clt_of_ne {ca : MccIpAddr} {clt : MccCltEntry} (hne : ca ≠ op.ca)
    (hclt : clt ∈ mccCltFind grp.cltList ca) :
    clt ∈ mccCltFind (op.changed (some grp)).cltList ca := by
  have hsame : findKey MccCltEntry.ca ca (mccCltApply op grp.cltList) =
      findKey MccCltEntry.ca ca grp.cltList := by
    apply findKey_upsert_of_ne hne
    · rfl
    · intro before after hafter
      have hca := (mccCltRefresh_frame hafter).1
      exact hca
  exact hsame.trans hclt

theorem da_mccGrpRefresh (h : mccGrpRefresh grp = some after) : after.da = grp.da := by
  obtain ⟨_, hafter⟩ := Option.ite_none_left_eq_some.mp h
  cases hafter
  rfl

/-- The group of a change. -/
theorem grp_mccFlwApply (hafter : mccGrpRefresh (op.changed (port.grp op.fid op.da)) = some after)
    (hda : after.da = op.da) :
    ({ port with flwList := mccFlwApply op port.flwList } : MccPort).grp op.fid op.da =
      some after := by
  let flw := (findKey MccFlwEntry.id op.fid port.flwList).getD ⟨op.fid, op.cvid, []⟩
  have hfound : port.grp op.fid op.da = findKey MccGrpEntry.da op.da flw.grpList := by
    simp only [flw, MccPort.grp, mccFlwFind, mccGrpFind]
    cases findKey MccFlwEntry.id op.fid port.flwList <;> rfl
  have hgrps : findKey MccGrpEntry.da op.da (mccGrpApply op flw.grpList) = some after := by
    refine findKey_upsert ?_ hda
    rw [← hfound]
    exact hafter
  have hne : mccGrpApply op flw.grpList ≠ [] := by
    intro hempty
    rw [hempty] at hgrps
    cases hgrps
  have hid : flw.id = op.fid := by
    simp only [flw]
    cases hfind : findKey MccFlwEntry.id op.fid port.flwList with
    | none => rfl
    | some found => exact key_findKey hfind
  have hflw : mccFlwFind (mccFlwApply op port.flwList) op.fid =
      some { flw with grpList := mccGrpApply op flw.grpList } :=
    findKey_upsert (if_neg hne) hid
  rw [MccPort.grp, hflw]
  exact hgrps

/-- Other groups of the port. -/
theorem grp_mccFlwApply_of_ne {fid : BitVec 8} {da : MccIpAddr}
    (hne : (fid, da) ≠ (op.fid, op.da)) (hgrp : port.grp fid da = some grp) :
    ({ port with flwList := mccFlwApply op port.flwList } : MccPort).grp fid da = some grp := by
  obtain ⟨flw, hflw, hfind⟩ := Option.bind_eq_some_iff.mp hgrp
  by_cases hfid : fid = op.fid
  · subst hfid
    have hda : da ≠ op.da := fun hda => hne (hda ▸ rfl)
    have hsame : findKey MccGrpEntry.da da (mccGrpApply op flw.grpList) =
        findKey MccGrpEntry.da da flw.grpList := by
      apply findKey_upsert_of_ne hda
      · rfl
      · intro before after hafter
        have hda := da_mccGrpRefresh hafter
        exact hda
    have hgrps : mccGrpFind (mccGrpApply op flw.grpList) da = some grp := hsame.trans hfind
    have hnonempty : mccGrpApply op flw.grpList ≠ [] := by
      intro hempty
      rw [hempty] at hgrps
      cases hgrps
    have hafter : mccFlwFind (mccFlwApply op port.flwList) op.fid =
        some { flw with grpList := mccGrpApply op flw.grpList } := by
      have hfound : findKey MccFlwEntry.id op.fid port.flwList = some flw := hflw
      have hid : flw.id = op.fid := key_findKey hfound
      refine findKey_upsert ?_ hid
      rw [hfound]
      exact if_neg hnonempty
    rw [MccPort.grp, hafter]
    exact hgrps
  · have hsame : findKey MccFlwEntry.id fid (mccFlwApply op port.flwList) =
        findKey MccFlwEntry.id fid port.flwList := by
      apply findKey_upsert_of_ne hfid
      · rfl
      · intro before after hafter
        simp only at hafter
        split at hafter
        · cases hafter
        · cases hafter
          rfl
    have hafter : mccFlwFind (mccFlwApply op port.flwList) fid = some flw := hsame.trans hflw
    rw [MccPort.grp, hafter]
    exact hfind

/-- All groups of a port are solid after a change. -/
theorem solid_mccFlwApply (hport : port.AllGrps MccGrpEntry.Solid) :
    ({ port with flwList := mccFlwApply op port.flwList } : MccPort).AllGrps
      MccGrpEntry.Solid := by
  intro flw hflw grp hgrp
  rcases mem_upsert hflw with hold | hnew
  · exact hport flw hold grp hgrp
  · have hgrps : ∀ grp ∈ ((findKey MccFlwEntry.id op.fid port.flwList).getD
        ⟨op.fid, op.cvid, []⟩).grpList, grp.Solid := by
      cases hfind : findKey MccFlwEntry.id op.fid port.flwList with
      | none =>
          intro grp hgrp
          cases hgrp
      | some found => exact hport found (mem_findKey hfind)
    simp only at hnew
    split at hnew
    · cases hnew
    · cases hnew
      rcases mem_upsert hgrp with hold | hrefreshed
      · exact hgrps grp hold
      · obtain ⟨_, hafter⟩ := Option.ite_none_left_eq_some.mp hrefreshed
        cases hafter
        exact Solid.changed op fun grp hgrp => hgrps grp (mem_findKey hgrp)

end Groups

end FalconGpon.Mcc
