/-
# Order of joins

The forwarding of a group on a bridge is meant to depend on the records of the clients and not
on how they came about. If the walks over the clients and over the ports compute the merged
filters, it is the merge of all clients behind the bridge
(`forwarding_mccFwdRefresh`), and runs that lead to the same records lead to the same
forwarding (`mccFwdRefresh_order`).
-/

import FalconGpon.Mcc.Record

namespace FalconGpon.Mcc

open FalconGpon.Lib

/-- What a call asks for; the order of the sources does not matter. -/
inductive Forwarding
  | removed (lanPort : Nat) (fid : BitVec 8) (da : MccIpAddr)
  | entry (fid : BitVec 8) (bridgeId : BitVec 16) (portMap : BitVec 8) (da : MccIpAddr)
      (filter : SourceFilter MccIpAddr)

/-- What a call asks for. -/
def MccDevCall.forwarding : MccDevCall → Forwarding
  | .portRemove lanPort fid da => .removed lanPort fid da
  | .fwdUpdate fid fmode bridgeId portMap da fwdSlist =>
      .entry fid bridgeId portMap da ⟨fmode, sources fwdSlist⟩

def MccPort.clts (port : MccPort) (fid : BitVec 8) (da : MccIpAddr) : List MccCltEntry :=
  ((port.grp fid da).map MccGrpEntry.cltList).getD []

def MccPort.filters (port : MccPort) (fid : BitVec 8) (da : MccIpAddr) :
    List (SourceFilter MccIpAddr) :=
  (port.clts fid da).map MccCltEntry.filter

def SameRecords (fid : BitVec 8) (da : MccIpAddr) : List MccPort → List MccPort → Prop :=
  List.Forall₂ fun port other => ∀ filter, filter ∈ port.filters fid da ↔ filter ∈ other.filters fid da

/-- The walks over the clients of a group and over the ports of a bridge compute the merged
filters. -/
def ForwardGuard (bridgeInfo : Nat → Option (BitVec 16)) (bridgeId : BitVec 16)
    (ports : List MccPort) (fid : BitVec 8) (da : MccIpAddr) : Prop :=
  (∀ grp ∈ mccFwdGrps bridgeInfo bridgeId ports fid da,
      MergeGuard .incl (grp.1.cltList.map MccCltEntry.record)) ∧
    MergeGuard .incl ((mccFwdGrps bridgeInfo bridgeId ports fid da).map (·.1.record))

/-! ## Groups between refreshes -/

def MccGrpEntry.Refreshed (grp : MccGrpEntry) : Prop :=
  mccGrpStateUpdate grp = grp ∧ grp.cltList ≠ []

def MccPort.Refreshed (port : MccPort) : Prop := port.AllGrps MccGrpEntry.Refreshed

theorem mccGrpStateUpdate_idem (grp : MccGrpEntry) :
    mccGrpStateUpdate (mccGrpStateUpdate grp) = mccGrpStateUpdate grp := by
  have hmode : walkMode (walkMode grp.fmode (grp.cltList.map MccCltEntry.record))
      (grp.cltList.map MccCltEntry.record) =
        walkMode grp.fmode (grp.cltList.map MccCltEntry.record) := by
    rw [walkMode_eq, walkMode_eq]
    cases (List.map MccCltEntry.record grp.cltList).getLast? <;> rfl
  rw [mccGrpStateUpdate_eq (mccGrpStateUpdate grp), mccGrpStateUpdate_eq grp]
  simp only [hmode]

theorem refreshed_of_mccGrpRefresh {grp after : MccGrpEntry} (h : mccGrpRefresh grp = some after) :
    after.Refreshed := by
  simp only [mccGrpRefresh] at h
  split at h
  · cases h
  · rename_i hkept
    cases h
    exact ⟨mccGrpStateUpdate_idem grp, fun hnone => hkept (.inr hnone)⟩

theorem MccPort.Refreshed.step {port : MccPort} (hport : port.Refreshed) (event : MccPortEvent) :
    (mccPortStep port event).Refreshed :=
  AllGrps.step (fun _ _ _ _ hafter => refreshed_of_mccGrpRefresh hafter) hport event

theorem MccPort.Refreshed.run {port : MccPort} (hport : port.Refreshed)
    (events : List MccPortEvent) : (events.foldl mccPortStep port).Refreshed := by
  induction events generalizing port with
  | nil => exact hport
  | cons event rest ih => exact ih (hport.step event)

theorem refreshed_mccRun (maxPorts : Nat) (events : List MccEvent) :
    ∀ port ∈ mccRun maxPorts events, port.Refreshed := by
  intro port hport
  obtain ⟨index, hindex⟩ := List.mem_iff_getElem?.mp hport
  have hrange : index < maxPorts := by
    rw [← length_mccRun maxPorts events]
    exact (List.getElem?_eq_some_iff.mp hindex).1
  rw [mccRun_getElem? hrange] at hindex
  cases hindex
  exact MccPort.Refreshed.run MccPort.AllGrps.clear _

/-! ## The forwarding of a bridge -/

section Forward

variable {bridgeInfo : Nat → Option (BitVec 16)} {bridgeId : BitVec 16} {ports others : List MccPort}
  {fid : BitVec 8} {da : MccIpAddr}

theorem MccPort.Refreshed.grp {port : MccPort} (hport : port.Refreshed) {grp : MccGrpEntry}
    (hgrp : port.grp fid da = some grp) : grp.Refreshed := by
  obtain ⟨flw, hflw, hfind⟩ := Option.bind_eq_some_iff.mp hgrp
  exact hport flw (mem_findKey hflw) grp (mem_findKey hfind)

theorem MccPort.exists_mem_filters {port : MccPort} (hport : port.Refreshed) :
    (∃ filter, filter ∈ port.filters fid da) ↔ (port.grp fid da).isSome := by
  unfold MccPort.filters MccPort.clts
  cases hgrp : port.grp fid da with
  | none => simp
  | some grp =>
      obtain ⟨clt, hclt⟩ := List.exists_mem_of_ne_nil _ (hport.grp hgrp).2
      exact iff_of_true ⟨clt.filter, List.mem_map_of_mem hclt⟩ rfl

/-- The groups found on ports with the same records: they are on the same ports and have the same
records. -/
def SameGrps : List (MccGrpEntry × Nat) → List (MccGrpEntry × Nat) → Prop :=
  List.Forall₂ fun grp other => grp.2 = other.2 ∧ ∀ filter,
    filter ∈ grp.1.cltList.map MccCltEntry.filter ↔ filter ∈ other.1.cltList.map MccCltEntry.filter

theorem zipIdx_same {R : MccPort → MccPort → Prop} (h : List.Forall₂ R ports others) (index : Nat) :
    List.Forall₂ (fun port other => port.2 = other.2 ∧ R port.1 other.1) (ports.zipIdx index)
      (others.zipIdx index) := by
  induction h generalizing index with
  | nil => exact .nil
  | cons hport _ ih => exact .cons ⟨rfl, hport⟩ (ih (index + 1))

theorem SameRecords.grps (hsame : SameRecords fid da ports others)
    (hports : ∀ port ∈ ports, port.Refreshed) (hothers : ∀ port ∈ others, port.Refreshed) :
    SameGrps (mccFwdGrps bridgeInfo bridgeId ports fid da)
      (mccFwdGrps bridgeInfo bridgeId others fid da) := by
  have hboth : List.Forall₂ (fun port other => (port.Refreshed ∧ other.Refreshed) ∧
      ∀ filter, filter ∈ port.filters fid da ↔ filter ∈ other.filters fid da) ports others := by
    induction hsame with
    | nil => exact .nil
    | cons hport _ ih =>
        obtain ⟨hfirst, hports⟩ := List.forall_mem_cons.mp hports
        obtain ⟨hsecond, hothers⟩ := List.forall_mem_cons.mp hothers
        exact .cons ⟨⟨hfirst, hsecond⟩, hport⟩ (ih hports hothers)
  refine List.rel_filterMap ?_ (zipIdx_same hboth 0)
  rintro ⟨port, index⟩ ⟨other, _⟩ ⟨rfl, ⟨hport, hother⟩, hfilters⟩
  by_cases hbridge : bridgeInfo index = some bridgeId
  · simp only [hbridge, if_true]
    have hexists : (port.grp fid da).isSome ↔ (other.grp fid da).isSome := by
      rw [← MccPort.exists_mem_filters hport, ← MccPort.exists_mem_filters hother]
      exact exists_congr hfilters
    cases hgrp : port.grp fid da with
    | none =>
        have hnone : other.grp fid da = none := by simpa [hgrp] using hexists
        rw [hnone]
        exact .none
    | some grp =>
        obtain ⟨found, hfound⟩ := Option.isSome_iff_exists.mp (hexists.mp (by rw [hgrp]; rfl))
        rw [hfound]
        refine .some ⟨rfl, fun filter => ?_⟩
        have hfilter := hfilters filter
        rw [MccPort.filters, MccPort.clts, MccPort.filters, MccPort.clts, hgrp, hfound] at hfilter
        exact hfilter
  · simp only [hbridge, if_false]
    exact .none

def filtersOf (grps : List (MccGrpEntry × Nat)) : List (SourceFilter MccIpAddr) :=
  (grps.map fun grp => grp.1.cltList.map MccCltEntry.filter).flatten

def portMapOf (grps : List (MccGrpEntry × Nat)) : BitVec 8 :=
  grps.foldl (fun portMap grp => portMap ||| (1#8 <<< grp.2)) 0

variable {grps found : List (MccGrpEntry × Nat)}

theorem SameGrps.filtersOf (h : SameGrps grps found) (filter : SourceFilter MccIpAddr) :
    filter ∈ filtersOf grps ↔ filter ∈ filtersOf found := by
  induction h with
  | nil => rfl
  | cons hgrp _ ih =>
      simp only [Mcc.filtersOf, List.map_cons, List.flatten_cons, List.mem_append] at ih ⊢
      exact or_congr (hgrp.2 filter) ih

theorem SameGrps.portMapOf (h : SameGrps grps found) : portMapOf grps = portMapOf found := by
  refine List.rel_foldl (P := Eq) ?_ rfl h
  rintro portMap _ rfl grp other ⟨hindex, _⟩
  exact congrArg (portMap ||| 1#8 <<< ·) hindex

/-- The mode after the walk over the ports, which begins with none. -/
theorem fwdMode_eq :
    grps.foldl (fun fwdMode grp =>
        let fwdMode := if grp.1.fmode = .incl then some .incl else fwdMode
        if grp.1.fmode = .excl then some .excl else fwdMode) none =
      if grps = [] then none else some (walkMode .incl (grps.map (·.1.record))) := by
  have hstep : ∀ (fwdMode : Option FilterMode) (grp : MccGrpEntry × Nat),
      (let fwdMode := if grp.1.fmode = .incl then some .incl else fwdMode
        if grp.1.fmode = .excl then some .excl else fwdMode) = some grp.1.fmode := by
    intro fwdMode grp
    cases grp.1.fmode <;> rfl
  simp only [hstep]
  cases grps with
  | nil => rfl
  | cons grp rest =>
      rw [if_neg (List.cons_ne_nil _ _), List.foldl_cons, walkMode_eq]
      induction rest generalizing grp with
      | nil => rfl
      | cons next rest ih =>
          have hlast : ((grp :: next :: rest).map (·.1.record)).getLast? =
              ((next :: rest).map (·.1.record)).getLast? := List.getLast?_cons_cons
          rw [List.foldl_cons, ih next, hlast]

theorem mccFwdSlist_eq (fmode : FilterMode) :
    mccFwdSlist fmode (grps.map Prod.fst) = walkSources fmode (grps.map (·.1.record)) := by
  have hmap : grps.map (·.1.record) = (grps.map Prod.fst).map MccGrpEntry.record := by
    rw [List.map_map]
    rfl
  rw [hmap]
  cases fmode with
  | incl => exact (walkSources_map_incl MccGrpEntry.record _).symm
  | excl => exact (walkSources_map_excl MccGrpEntry.record _).symm

theorem refreshed_of_mem_mccFwdGrps (hports : ∀ port ∈ ports, port.Refreshed)
    {grp : MccGrpEntry × Nat} (hgrp : grp ∈ mccFwdGrps bridgeInfo bridgeId ports fid da) :
    grp.1.Refreshed := by
  obtain ⟨⟨port, index⟩, hport, hfound⟩ := List.mem_filterMap.mp hgrp
  split at hfound
  · obtain ⟨found, hfind, rfl⟩ := Option.map_eq_some_iff.mp hfound
    exact MccPort.Refreshed.grp (hports port (List.fst_mem_of_mem_zipIdx hport)) hfind
  · cases hfound

/-- The forwarding of a bridge is the merge of all clients behind it. -/
theorem forwarding_mccFwdRefresh (hports : ∀ port ∈ ports, port.Refreshed)
    {lanPortIdx : Nat} (hbridge : bridgeInfo lanPortIdx = some bridgeId)
    (hguard : ForwardGuard bridgeInfo bridgeId ports fid da) :
    (mccFwdRefresh bridgeInfo ports lanPortIdx fid da).map MccDevCall.forwarding =
      some (if mccFwdGrps bridgeInfo bridgeId ports fid da = [] then .removed lanPortIdx fid da
        else .entry fid bridgeId (portMapOf (mccFwdGrps bridgeInfo bridgeId ports fid da)) da
          (SourceFilter.merge (filtersOf (mccFwdGrps bridgeInfo bridgeId ports fid da)))) := by
  have hrefreshed : ∀ grp ∈ mccFwdGrps bridgeInfo bridgeId ports fid da, grp.1.Refreshed :=
    fun grp hgrp => refreshed_of_mem_mccFwdGrps hports hgrp
  obtain ⟨hclts, hgrps⟩ := hguard
  rw [mccFwdRefresh, hbridge]
  simp only [Option.map_some, fwdMode_eq, mccFwdSlist_eq]
  generalize mccFwdGrps bridgeInfo bridgeId ports fid da = grps at hclts hgrps hrefreshed ⊢
  by_cases hnone : grps = []
  · simp only [hnone, if_true]
    rfl
  · have hfilters : (grps.map (·.1.record)).map MccRecord.filter =
        (grps.map fun grp => grp.1.cltList.map MccCltEntry.filter).map SourceFilter.merge := by
      rw [List.map_map, List.map_map]
      refine List.map_congr_left fun grp hgrp => ?_
      obtain ⟨hupdate, hsome⟩ := hrefreshed grp hgrp
      have hfilter := filter_eq_merge ((hclts grp hgrp).of_ne_nil (mt List.map_eq_nil_iff.mp hsome))
      rw [hupdate] at hfilter
      exact hfilter
    have hmerge := (mccWalk_filter_iff .incl (grps.map (·.1.record))).mpr hgrps
    rw [hfilters, SourceFilter.merge_map_merge] at hmerge
    simp only [hnone, if_false, MccDevCall.forwarding, hmerge]
    rfl

/-- Ports with the same records have the same forwarding. -/
theorem SameRecords.forwarding (hsame : SameRecords fid da ports others)
    (hports : ∀ port ∈ ports, port.Refreshed) (hothers : ∀ port ∈ others, port.Refreshed)
    {lanPortIdx : Nat} (hbridge : bridgeInfo lanPortIdx = some bridgeId)
    (hguard : ForwardGuard bridgeInfo bridgeId ports fid da)
    (hguard' : ForwardGuard bridgeInfo bridgeId others fid da) :
    (mccFwdRefresh bridgeInfo ports lanPortIdx fid da).map MccDevCall.forwarding =
      (mccFwdRefresh bridgeInfo others lanPortIdx fid da).map MccDevCall.forwarding := by
  have hgrps : SameGrps (mccFwdGrps bridgeInfo bridgeId ports fid da)
      (mccFwdGrps bridgeInfo bridgeId others fid da) := hsame.grps hports hothers
  rw [forwarding_mccFwdRefresh hports hbridge hguard,
    forwarding_mccFwdRefresh hothers hbridge hguard', hgrps.portMapOf,
    SourceFilter.merge_congr hgrps.filtersOf]
  have hnil : mccFwdGrps bridgeInfo bridgeId ports fid da = [] ↔
      mccFwdGrps bridgeInfo bridgeId others fid da = [] := by
    rw [← List.length_eq_zero_iff, hgrps.length_eq, List.length_eq_zero_iff]
  simp only [hnil]

end Forward

/-- Two runs that lead to the same records of clients for a group lead to the same forwarding,
if in both the walks over the clients and over the ports compute the merged filters: no
filter of a walk excludes, or the last one does and the intersection did not begin anew
with sources that matter. -/
theorem mccFwdRefresh_order {maxPorts : Nat} {events others : List MccEvent}
    {bridgeInfo : Nat → Option (BitVec 16)} {fid : BitVec 8} {da : MccIpAddr}
    (hsame : SameRecords fid da (mccRun maxPorts events) (mccRun maxPorts others))
    {lanPortIdx : Nat} (hguard : ∀ bridgeId, bridgeInfo lanPortIdx = some bridgeId →
      ForwardGuard bridgeInfo bridgeId (mccRun maxPorts events) fid da)
    (hguard' : ∀ bridgeId, bridgeInfo lanPortIdx = some bridgeId →
      ForwardGuard bridgeInfo bridgeId (mccRun maxPorts others) fid da) :
    (mccFwdRefresh bridgeInfo (mccRun maxPorts events) lanPortIdx fid da).map
        MccDevCall.forwarding =
      (mccFwdRefresh bridgeInfo (mccRun maxPorts others) lanPortIdx fid da).map
        MccDevCall.forwarding := by
  cases hbridge : bridgeInfo lanPortIdx with
  | none => simp only [mccFwdRefresh, hbridge, Option.map_none]
  | some bridgeId =>
      exact hsame.forwarding (refreshed_mccRun maxPorts events) (refreshed_mccRun maxPorts others)
        hbridge (hguard bridgeId hbridge) (hguard' bridgeId hbridge)

/-! ## Two joins in both orders -/

theorem sameRecords_of_perm {fid : BitVec 8} {da : MccIpAddr} {ports others : List MccPort}
    (h : List.Forall₂ (fun port other => (port.clts fid da).Perm (other.clts fid da)) ports others) :
    SameRecords fid da ports others :=
  h.imp fun _ _ hperm _ => (hperm.map MccCltEntry.filter).mem_iff

def sampleWlist : MccOmciWlist := ⟨sampleSource mccIpAny, 0, false, 0xffff⟩

/-- A port without limits. -/
def sampleEnv : MccEnv where
  vlanMode := .unaware
  portMe := .found ⟨0, 0, false⟩ (some sampleWlist)
  fid _ := some 1
  iopOption0 := false
  addrTable := .accepted
  bridgeInfo _ := some 5

def sampleJoin (ca : MccIpAddr) (recType : MccProtRecType) (sas : List MccIpAddr) : MccEvent :=
  .report sampleEnv ⟨4, 0, 0, 0, 0xe1, ca, recType, sas⟩

/-- Of a client that excludes nothing and one that includes a source, the one that joins last
decides on the mode. -/
theorem mccFwdRefresh_not_order :
    ¬ ∀ (maxPorts : Nat) (events others : List MccEvent)
      (bridgeInfo : Nat → Option (BitVec 16)) (fid : BitVec 8) (da : MccIpAddr) (lanPortIdx : Nat),
      SameRecords fid da (mccRun maxPorts events) (mccRun maxPorts others) →
        (mccFwdRefresh bridgeInfo (mccRun maxPorts events) lanPortIdx fid da).map
            MccDevCall.forwarding =
          (mccFwdRefresh bridgeInfo (mccRun maxPorts others) lanPortIdx fid da).map
            MccDevCall.forwarding := by
  intro hall
  have hsame : SameRecords 1 0xe1
      (mccRun 1 [sampleJoin 1 .changeToExclude [], sampleJoin 2 .changeToInclude [7]])
      (mccRun 1 [sampleJoin 2 .changeToInclude [7], sampleJoin 1 .changeToExclude []]) :=
    sameRecords_of_perm (.cons (by decide) .nil)
  have hforwarding := hall 1 _ _ (fun _ => some 5) 1 0xe1 0 hsame
  have hincl : mccFwdRefresh (fun _ => some 5)
      (mccRun 1 [sampleJoin 1 .changeToExclude [], sampleJoin 2 .changeToInclude [7]]) 0 1 0xe1 =
        some (.fwdUpdate 1 .incl 5 1 0xe1 [⟨0, 0, false, false⟩, ⟨7, 0, false, false⟩]) := by
    decide
  have hexcl : mccFwdRefresh (fun _ => some 5)
      (mccRun 1 [sampleJoin 2 .changeToInclude [7], sampleJoin 1 .changeToExclude []]) 0 1 0xe1 =
        some (.fwdUpdate 1 .excl 5 1 0xe1 [⟨0, 0, false, false⟩]) := by
    decide
  rw [hincl, hexcl] at hforwarding
  simp [MccDevCall.forwarding] at hforwarding

/-- Two clients that include sources, in both orders, before one that excludes nothing. -/
theorem mccFwdRefresh_order_joins :
    (mccFwdRefresh (fun _ => some 5) (mccRun 1 [sampleJoin 2 .changeToInclude [7],
        sampleJoin 3 .changeToInclude [8], sampleJoin 1 .changeToExclude []]) 0 1 0xe1).map
          MccDevCall.forwarding =
      (mccFwdRefresh (fun _ => some 5) (mccRun 1 [sampleJoin 3 .changeToInclude [8],
        sampleJoin 2 .changeToInclude [7], sampleJoin 1 .changeToExclude []]) 0 1 0xe1).map
          MccDevCall.forwarding := by
  have hguard : ∀ events ∈ [[sampleJoin 2 .changeToInclude [7], sampleJoin 3 .changeToInclude [8],
      sampleJoin 1 .changeToExclude []], [sampleJoin 3 .changeToInclude [8],
      sampleJoin 2 .changeToInclude [7], sampleJoin 1 .changeToExclude []]],
      ∀ bridgeId, some 5 = some bridgeId →
        ForwardGuard (fun _ => some 5) bridgeId (mccRun 1 events) 1 0xe1 := by
    rintro events hevents _ ⟨⟩
    have hclts : ∀ grp ∈ mccFwdGrps (fun _ => some 5) 5 (mccRun 1 events) 1 0xe1,
        (grp.1.cltList.map MccCltEntry.record).getLast?.map MccRecord.fmode = some .excl ∧
          (listsOf .excl (grp.1.cltList.map MccCltEntry.record)).length = 1 := by
      revert events
      decide
    have hgrps : ((mccFwdGrps (fun _ => some 5) 5 (mccRun 1 events) 1 0xe1).map
          (·.1.record)).getLast?.map MccRecord.fmode = some .excl ∧
        (listsOf .excl ((mccFwdGrps (fun _ => some 5) 5 (mccRun 1 events) 1 0xe1).map
          (·.1.record))).length = 1 := by
      clear hclts
      revert events
      decide
    exact ⟨fun grp hgrp => .of_last (hclts grp hgrp).1 (hclts grp hgrp).2,
      .of_last hgrps.1 hgrps.2⟩
  exact mccFwdRefresh_order (sameRecords_of_perm (.cons (by decide) .nil))
    (hguard _ List.mem_cons_self) (hguard _ (List.mem_cons_of_mem _ List.mem_cons_self))

end FalconGpon.Mcc
