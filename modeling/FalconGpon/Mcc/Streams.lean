/-
# Streams of a port

A stream is a source of a group of a flow. The capacity functions count the streams of a port
and add up their imputed bandwidths, from the lists as they are; both are sums of a weight over
the entries of the merged lists, and a processed record changes such a sum by what it changes of
its group (`weigh_mccFlwUpdate`).
-/

import FalconGpon.Mcc.ForwardOrder

namespace FalconGpon.Mcc

open FalconGpon.Lib

/-! ## Entries of merged lists -/

section Entries

variable {list1 list2 list : List MccSrcEntry} {lists : List (List MccSrcEntry)} {e : MccSrcEntry}
  {records : List MccRecord} {fmode : FilterMode}

theorem mem_slistIntersect (he : e ∈ slistIntersect list1 list2) : e ∈ list1 ∨ e ∈ list2 := by
  unfold slistIntersect at he
  split at he
  · exact .inl he
  · split at he
    · exact .inr he
    · split at he
      · exact .inr he
      · exact .inl (List.mem_of_mem_filter he)

theorem mem_slistSubtract (he : e ∈ slistSubtract list1 list2) : e ∈ list1 ∨ e ∈ list2 :=
  .inl (List.mem_of_mem_filter he)

theorem mem_slistUnite (he : e ∈ slistUnite list1 list2) : e ∈ list1 ∨ e ∈ list2 := by
  unfold slistUnite at he
  split at he
  · exact .inr he
  · rename_i hsome
    clear hsome
    induction list2 generalizing list1 with
    | nil => exact .inl he
    | cons e2 rest ih =>
        rcases ih he with hmem | hmem
        · unfold slistAdd at hmem
          split at hmem
          · exact .inl hmem
          · rcases List.mem_append.mp hmem with hmem | hmem
            · exact .inl hmem
            · exact .inr (List.mem_singleton.mp hmem ▸ List.mem_cons_self)
        · exact .inr (List.mem_cons_of_mem _ hmem)

theorem mem_foldl_slist {op : List MccSrcEntry → List MccSrcEntry → List MccSrcEntry}
    (hop : ∀ list1 list2, e ∈ op list1 list2 → e ∈ list1 ∨ e ∈ list2)
    (he : e ∈ lists.foldl op list) : e ∈ list ∨ ∃ other ∈ lists, e ∈ other := by
  induction lists generalizing list with
  | nil => exact .inl he
  | cons other rest ih =>
      rcases ih he with hmem | ⟨found, hfound, hmem⟩
      · rcases hop _ _ hmem with hmem | hmem
        · exact .inl hmem
        · exact .inr ⟨other, List.mem_cons_self, hmem⟩
      · exact .inr ⟨found, List.mem_cons_of_mem _ hfound, hmem⟩

/-- The entries of a merged list are those of the records. -/
theorem exists_of_mem_walkSources (he : e ∈ walkSources fmode records) :
    ∃ record ∈ records, e ∈ record.srcList := by
  cases fmode with
  | incl =>
      rcases mem_foldl_slist (fun _ _ => mem_slistUnite) he with hnil | ⟨_, hlist, hmem⟩
      · cases hnil
      · obtain ⟨record, hrecord, rfl⟩ := List.mem_map.mp hlist
        exact ⟨record, hrecord, hmem⟩
  | excl =>
      have hlists : ∀ {mode : FilterMode} {other : List MccSrcEntry}, other ∈ listsOf mode records →
          e ∈ other → ∃ record ∈ records, e ∈ record.srcList := by
        intro mode other hother hmem
        obtain ⟨record, hrecord, _, rfl⟩ := mem_listsOf.mp hother
        exact ⟨record, hrecord, hmem⟩
      rcases mem_foldl_slist (fun _ _ => mem_slistSubtract) he with hmem | ⟨_, hother, hmem⟩
      · rcases mem_foldl_slist (fun _ _ => mem_slistIntersect) hmem with hnil | ⟨_, hother, hmem⟩
        · cases hnil
        · exact hlists hother hmem
      · exact hlists hother hmem

theorem nodup_slistIntersect (h1 : (addrs list1).Nodup) (h2 : (addrs list2).Nodup) :
    (addrs (slistIntersect list1 list2)).Nodup := by
  unfold slistIntersect
  split
  · exact h1
  · split
    · exact h2
    · split
      · exact h2
      · exact h1.sublist (List.filter_sublist.map _)

theorem nodup_slistSubtract (h1 : (addrs list1).Nodup) (_ : (addrs list2).Nodup) :
    (addrs (slistSubtract list1 list2)).Nodup :=
  h1.sublist (List.filter_sublist.map _)

theorem nodup_slistUnite (h1 : (addrs list1).Nodup) (h2 : (addrs list2).Nodup) :
    (addrs (slistUnite list1 list2)).Nodup := by
  unfold slistUnite
  split
  · exact h2
  · rename_i hsome
    clear hsome h2
    have hadd : ∀ (list : MccSrcList), (addrs (list2.foldl slistAdd list.entries)).Nodup := by
      induction list2 with
      | nil => exact fun list => list.nodup
      | cons e2 rest ih => exact fun list => ih (list.add e2)
    exact hadd ⟨list1, h1⟩

theorem nodup_foldl_slist {op : List MccSrcEntry → List MccSrcEntry → List MccSrcEntry}
    (hop : ∀ list1 list2, (addrs list1).Nodup → (addrs list2).Nodup →
      (addrs (op list1 list2)).Nodup)
    (hlist : (addrs list).Nodup) (hlists : ∀ other ∈ lists, (addrs other).Nodup) :
    (addrs (lists.foldl op list)).Nodup := by
  induction lists generalizing list with
  | nil => exact hlist
  | cons other rest ih =>
      obtain ⟨hother, hrest⟩ := List.forall_mem_cons.mp hlists
      exact ih (hop _ _ hlist hother) hrest

theorem nodup_walkSources (hrecords : ∀ record ∈ records, (addrs record.srcList).Nodup) :
    (addrs (walkSources fmode records)).Nodup := by
  cases fmode with
  | incl =>
      refine nodup_foldl_slist (fun _ _ => nodup_slistUnite) List.nodup_nil fun other hother => ?_
      obtain ⟨record, hrecord, rfl⟩ := List.mem_map.mp hother
      exact hrecords record hrecord
  | excl =>
      have hlists : ∀ {mode : FilterMode}, ∀ other ∈ listsOf mode records, (addrs other).Nodup := by
        intro mode other hother
        obtain ⟨record, hrecord, _, rfl⟩ := mem_listsOf.mp hother
        exact hrecords record hrecord
      exact nodup_foldl_slist (fun _ _ => nodup_slistSubtract)
        (nodup_foldl_slist (fun _ _ => nodup_slistIntersect) List.nodup_nil hlists) hlists

end Entries

/-! ## Weights -/

def MccGrpEntry.weigh (w : MccSrcEntry → Nat) (grp : MccGrpEntry) : Nat :=
  (grp.srcLinkList.map w).sum

def MccFlwEntry.weigh (w : MccSrcEntry → Nat) (flw : MccFlwEntry) : Nat :=
  (flw.grpList.map (MccGrpEntry.weigh w)).sum

def MccPort.weigh (w : MccSrcEntry → Nat) (port : MccPort) : Nat :=
  (port.flwList.map (MccFlwEntry.weigh w)).sum

def streamWeight : MccSrcEntry → Nat := fun _ => 1

def ibwWeight (e : MccSrcEntry) : Nat := e.ibw.toNat

theorem sum_streamWeight (list : List MccSrcEntry) : (list.map streamWeight).sum = list.length := by
  unfold streamWeight
  simp

/-- A record changes the weight of its group and no other. -/
theorem weigh_mccFlwUpdate (w : MccSrcEntry → Nat) (port : MccPort) (rec : MccRec) :
    ((mccFlwUpdate rec port.flwList).map (MccFlwEntry.weigh w)).sum + (port.grpFor rec).weigh w =
      port.weigh w + ((port.grpAfter rec).map (MccGrpEntry.weigh w)).getD 0 := by
  let flw := (mccFlwFind port.flwList rec.flwId).getD ⟨rec.flwId, rec.cvid, []⟩
  have hfound : port.grpFor rec =
      (mccGrpFind flw.grpList rec.da).getD ⟨rec.da, [], [], .incl, false⟩ := by
    simp only [flw, MccPort.grpFor, MccPort.grp]
    cases mccFlwFind port.flwList rec.flwId <;> rfl
  have hflw : ((mccFlwUpdate rec port.flwList).map (MccFlwEntry.weigh w)).sum + flw.weigh w =
      port.weigh w + ((mccGrpUpdate rec flw.grpList).map (MccGrpEntry.weigh w)).sum := by
    have hsum := sum_upsert MccFlwEntry.id rec.flwId ⟨rec.flwId, rec.cvid, []⟩ (fun flw =>
      let grpList := mccGrpUpdate rec flw.grpList
      if grpList = [] then none else some { flw with grpList }) port.flwList
      (f := MccFlwEntry.weigh w) rfl
    rw [mccFlwUpdate, MccPort.weigh]
    refine hsum.trans (congrArg _ ?_)
    simp only
    split
    · rename_i hnone
      change mccGrpUpdate rec flw.grpList = [] at hnone
      rw [hnone]
      rfl
    · rfl
  have hgrp : ((mccGrpUpdate rec flw.grpList).map (MccGrpEntry.weigh w)).sum +
      (port.grpFor rec).weigh w =
        flw.weigh w + ((port.grpAfter rec).map (MccGrpEntry.weigh w)).getD 0 := by
    rw [MccPort.grpAfter, hfound]
    exact sum_upsert MccGrpEntry.da rec.da _ _ flw.grpList rfl
  omega

/-! ## Entries after a record -/

def MccSrcEntry.kept (e : MccSrcEntry) : MccSrcEntry := { e with ibwAny := false }

theorem mem_mccCltSources {action : MccSaAction} {isStatic : Bool} {list : List MccSrcEntry}
    {own : MccSrcList} {e : MccSrcEntry}
    (he : e ∈ (mccCltSources action isStatic list own).entries) :
    e ∈ own.entries ∨ action = .add ∧ ∃ r ∈ list, e = r.kept := by
  induction list generalizing own with
  | nil =>
      cases action <;> exact .inl he
  | cons r rest ih =>
      cases action with
      | add =>
          rcases ih he with hmem | ⟨hadd, r', hr', rfl⟩
          · rcases MccSrcList.mem_add hmem with hown | rfl
            · exact .inl hown
            · exact .inr ⟨rfl, r, List.mem_cons_self, rfl⟩
          · exact .inr ⟨hadd, r', List.mem_cons_of_mem _ hr', rfl⟩
      | rem =>
          rcases ih he with hmem | ⟨hadd, _⟩
          · refine .inl ?_
            simp only at hmem
            split at hmem
            · split at hmem
              · exact List.mem_of_mem_eraseP hmem
              · exact hmem
            · exact hmem
          · cases hadd

/-- What a client keeps of a record: entries it had, and those added. -/
theorem mccCltRefresh_spec {srcList : MccSrcList} {clt after : MccCltEntry}
    (h : mccCltRefresh srcList clt = some after) :
    (after.fmode = clt.fmode ∧ after.smode = clt.smode) ∧ ∀ e ∈ after.srcList.entries,
      (e ∈ clt.srcList.entries ∧ clt.smode ≠ none) ∨
        mccSrcListActionGet clt.fmode clt.smode = .add ∧ ∃ r ∈ srcList.entries, e = r.kept := by
  obtain ⟨_, hafter⟩ := Option.ite_none_left_eq_some.mp h
  cases hafter
  refine ⟨⟨rfl, rfl⟩, fun e he => ?_⟩
  have hsources : e ∈ (mccCltSources (mccSrcListActionGet clt.fmode clt.smode) clt.isStatic
      srcList.entries (if clt.smode = none then .empty else clt.srcList)).entries := by
    simp only at he
    split at he
    · exact List.mem_of_mem_eraseP he
    · exact he
  rcases mem_mccCltSources hsources with hown | hadded
  · split at hown
    · cases hown
    · rename_i hsmode
      exact .inl ⟨hown, hsmode⟩
  · exact .inr hadded

def MccRec.clt (rec : MccRec) (cltList : List MccCltEntry) : MccCltEntry :=
  let clt := (findKey MccCltEntry.ca rec.ca cltList).getD ⟨rec.ca, .empty, .incl, none, false⟩
  { clt with fmode := rec.fmode.getD clt.fmode, smode := rec.smode.or clt.smode }

theorem mem_mccCltUpdate {rec : MccRec} {cltList : List MccCltEntry} {clt : MccCltEntry}
    (hclt : clt ∈ mccCltUpdate rec cltList) :
    clt ∈ cltList ∨ mccCltRefresh rec.srcList (rec.clt cltList) = some clt :=
  mem_upsert hclt

theorem MccRec.exists_of_mem_clt {rec : MccRec} {cltList : List MccCltEntry} {e : MccSrcEntry}
    (he : e ∈ (rec.clt cltList).srcList.entries) : ∃ clt ∈ cltList, e ∈ clt.srcList.entries := by
  unfold MccRec.clt at he
  cases hfind : findKey MccCltEntry.ca rec.ca cltList with
  | none =>
      rw [hfind] at he
      cases he
  | some clt =>
      rw [hfind] at he
      exact ⟨clt, mem_findKey hfind, he⟩

theorem exists_of_mem_mccCltUpdate {rec : MccRec} {cltList : List MccCltEntry} {clt : MccCltEntry}
    {e : MccSrcEntry} (hclt : clt ∈ mccCltUpdate rec cltList) (he : e ∈ clt.srcList.entries) :
    (∃ before ∈ cltList, e ∈ before.srcList.entries) ∨
      mccSrcListActionGet (rec.clt cltList).fmode (rec.clt cltList).smode = .add ∧
        ∃ r ∈ rec.srcList.entries, e = r.kept := by
  rcases mem_mccCltUpdate hclt with hold | hrefresh
  · exact .inl ⟨clt, hold, he⟩
  · rcases (mccCltRefresh_spec hrefresh).2 e he with ⟨hown, _⟩ | hadded
    · exact .inl (MccRec.exists_of_mem_clt hown)
    · exact .inr hadded

/-! ## What the code counts -/

def MccGrpEntry.Plain (grp : MccGrpEntry) : Prop :=
  ∀ clt ∈ grp.cltList, ∀ e ∈ clt.srcList.entries, e.ibwAny = false

def MccPort.WellFormed (port : MccPort) : Prop :=
  port.AllGrps fun grp => grp.Refreshed ∧ grp.Plain

/-- Every event leaves such groups. -/
theorem MccPort.WellFormed.step {port : MccPort} (hport : port.WellFormed) (event : MccPortEvent) :
    (mccPortStep port event).WellFormed := by
  refine AllGrps.step (fun grp rec after hgrp hafter => ?_) hport event
  refine ⟨refreshed_of_mccGrpRefresh hafter, fun clt hclt e he => ?_⟩
  have hclts : after.cltList = mccCltUpdate rec grp.cltList := by
    simp only [mccGrpRefresh] at hafter
    split at hafter
    · cases hafter
    · cases hafter
      rw [mccGrpStateUpdate_eq]
  rw [hclts] at hclt
  rcases exists_of_mem_mccCltUpdate hclt he with ⟨before, hbefore, hmem⟩ | ⟨_, r, _, rfl⟩
  · rcases hgrp with ⟨_, hplain⟩ | hnone
    · exact hplain before hbefore e hmem
    · rw [hnone] at hbefore
      cases hbefore
  · rfl

variable {grp : MccGrpEntry}

theorem MccGrpEntry.Refreshed.fmode (h : grp.Refreshed) :
    grp.fmode = walkMode grp.fmode (grp.cltList.map MccCltEntry.record) := by
  have hupdate := mccGrpStateUpdate_eq grp
  rw [h.1] at hupdate
  exact congrArg MccGrpEntry.fmode hupdate

theorem MccGrpEntry.Refreshed.srcLinkList (h : grp.Refreshed) :
    grp.srcLinkList = walkSources grp.fmode (grp.cltList.map MccCltEntry.record) := by
  have hupdate := mccGrpStateUpdate_eq grp
  rw [h.1] at hupdate
  have hlist := congrArg MccGrpEntry.srcLinkList hupdate
  rw [← h.fmode] at hlist
  exact hlist

theorem MccGrpEntry.Refreshed.fmode_of_forall (h : grp.Refreshed)
    {mode : FilterMode} (hmode : ∀ clt ∈ grp.cltList, clt.fmode = mode) : grp.fmode = mode := by
  rw [h.fmode]
  refine walkMode_of_forall (fun record hrecord => ?_) (mt List.map_eq_nil_iff.mp h.2)
  obtain ⟨clt, hclt, rfl⟩ := List.mem_map.mp hrecord
  exact hmode clt hclt

theorem MccGrpEntry.Refreshed.exists_clt (h : grp.Refreshed) {e : MccSrcEntry}
    (he : e ∈ grp.srcLinkList) : ∃ clt ∈ grp.cltList, e ∈ clt.srcList.entries := by
  rw [h.srcLinkList] at he
  obtain ⟨record, hrecord, hmem⟩ := exists_of_mem_walkSources he
  obtain ⟨clt, hclt, rfl⟩ := List.mem_map.mp hrecord
  exact ⟨clt, hclt, hmem⟩

theorem MccGrpEntry.Refreshed.nodup (h : grp.Refreshed) : (addrs grp.srcLinkList).Nodup := by
  rw [h.srcLinkList]
  refine nodup_walkSources fun record hrecord => ?_
  obtain ⟨clt, _, rfl⟩ := List.mem_map.mp hrecord
  exact clt.srcList.nodup

theorem mccSrcCapacity_eq {list : List MccSrcEntry} (hplain : ∀ e ∈ list, e.ibwAny = false)
    (cap : MccCapacity) :
    mccSrcCapacity list cap =
      ⟨cap.str + BitVec.ofNat 32 (list.map streamWeight).sum,
        cap.ibw + BitVec.ofNat 64 (list.map ibwWeight).sum⟩ := by
  induction list generalizing cap with
  | nil => simp [mccSrcCapacity]
  | cons e rest ih =>
      obtain ⟨he, hrest⟩ := List.forall_mem_cons.mp hplain
      have hibw : e.ibw.setWidth 64 = BitVec.ofNat 64 e.ibw.toNat := by
        rw [← BitVec.ofNat_toNat]
      rw [mccSrcCapacity, he, if_neg Bool.false_ne_true, ih hrest, MccCapacity.charge, hibw]
      simp only [List.map_cons, List.sum_cons, streamWeight, ibwWeight, BitVec.ofNat_add,
        BitVec.add_assoc]
      rfl

/-- The capacity of a port is the number of its streams and the sum of their bandwidths. -/
theorem mccPortTotalCapacityGet_eq {port : MccPort} (hport : port.WellFormed) :
    mccPortTotalCapacityGet port =
      ⟨BitVec.ofNat 32 (port.weigh streamWeight), BitVec.ofNat 64 (port.weigh ibwWeight)⟩ := by
  have hgrps : ∀ (grpList : List MccGrpEntry) (cap : MccCapacity),
      (∀ grp ∈ grpList, grp.Refreshed ∧ grp.Plain) →
      grpList.foldl (fun cap grp => mccSrcCapacity grp.srcLinkList cap) cap =
        ⟨cap.str + BitVec.ofNat 32 (grpList.map (MccGrpEntry.weigh streamWeight)).sum,
          cap.ibw + BitVec.ofNat 64 (grpList.map (MccGrpEntry.weigh ibwWeight)).sum⟩ := by
    intro grpList
    induction grpList with
    | nil => simp
    | cons grp rest ih =>
        intro cap hgrpList
        obtain ⟨⟨hrefreshed, hplain⟩, hrest⟩ := List.forall_mem_cons.mp hgrpList
        have hlist : ∀ e ∈ grp.srcLinkList, e.ibwAny = false := by
          intro e he
          obtain ⟨clt, hclt, hmem⟩ := hrefreshed.exists_clt he
          exact hplain clt hclt e hmem
        rw [List.foldl_cons, mccSrcCapacity_eq hlist, ih _ hrest]
        simp only [List.map_cons, List.sum_cons, BitVec.ofNat_add, BitVec.add_assoc,
          MccGrpEntry.weigh]
  have hflws : ∀ (flwList : List MccFlwEntry) (cap : MccCapacity),
      (∀ flw ∈ flwList, ∀ grp ∈ flw.grpList, grp.Refreshed ∧ grp.Plain) →
      flwList.foldl (fun cap flw =>
          flw.grpList.foldl (fun cap grp => mccSrcCapacity grp.srcLinkList cap) cap) cap =
        ⟨cap.str + BitVec.ofNat 32 (flwList.map (MccFlwEntry.weigh streamWeight)).sum,
          cap.ibw + BitVec.ofNat 64 (flwList.map (MccFlwEntry.weigh ibwWeight)).sum⟩ := by
    intro flwList
    induction flwList with
    | nil => simp
    | cons flw rest ih =>
        intro cap hflwList
        obtain ⟨hflw, hrest⟩ := List.forall_mem_cons.mp hflwList
        rw [List.foldl_cons, hgrps _ _ hflw, ih _ hrest]
        simp only [List.map_cons, List.sum_cons, BitVec.ofNat_add, BitVec.add_assoc,
          MccFlwEntry.weigh]
  exact (hflws port.flwList ⟨0, 0⟩ hport).trans
    (congrArg₂ MccCapacity.mk (BitVec.zero_add _) (BitVec.zero_add _))

end FalconGpon.Mcc
