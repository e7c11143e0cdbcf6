/-
# Source lists

The multicast core keeps sources in linked lists of `struct mcc_src_entry`, in which no
address comes twice, and merges the lists of the clients of a group, and those of the groups
of a flow, by walking over them. `mccWalk_filter_iff` says when such a walk computes
`SourceFilter.merge`: the mode is that of the last record, and the intersection begins anew
when it has run empty.
-/

import FalconGpon.Lib.SourceFilter
import Mathlib.Data.List.Nodup

namespace FalconGpon.Mcc

open FalconGpon.Lib

/-- `union mcc_ip_addr`; an IPv4 address takes the first four bytes. -/
abbrev MccIpAddr := BitVec 128

instance lawfulBEq_mccIpAddr : LawfulBEq MccIpAddr := inferInstance

/-- `0.0.0.0`, which stands for no source in a list of excluded ones. -/
def mccIpAny : MccIpAddr := 0

/-- `struct mcc_src_entry`. -/
structure MccSrcEntry where
  sa : MccIpAddr
  /-- Imputed bandwidth. -/
  ibw : BitVec 32
  ibwAny : Bool
  isStatic : Bool
deriving DecidableEq

abbrev addrs (list : List MccSrcEntry) : List MccIpAddr := list.map MccSrcEntry.sa

/-- A list of a client, a record or a white list: `mcc_src_find` comes before
`mcc_src_create`. -/
structure MccSrcList where
  entries : List MccSrcEntry
  nodup : (addrs entries).Nodup

instance : DecidableEq MccSrcList := fun list other =>
  decidable_of_iff (list.entries = other.entries) (by cases list; cases other; simp)

/-- `mcc_src_find`. -/
def mccSrcFind (list : List MccSrcEntry) (sa : MccIpAddr) : Option MccSrcEntry :=
  list.find? (·.sa = sa)

/-- The list is the dummy entry that `mcc_rec_get` makes. -/
def isAny : List MccSrcEntry → Bool
  | [entry] => entry.sa = mccIpAny
  | _ => false

/-! ## The operations -/

def common (list1 list2 : List MccSrcEntry) : List MccSrcEntry :=
  list1.filter fun e1 => e1.sa ∈ addrs list2

/-- `mcc_grp_slist_intersect` and `mcc_fwd_slist_intersect`. -/
def slistIntersect (list1 list2 : List MccSrcEntry) : List MccSrcEntry :=
  if list2 = [] then list1
  else if list1 = [] then list2
  else if isAny list2 ∧ common list1 list2 = [] then list2
  else common list1 list2

/-- `mcc_grp_slist_subtract` and `mcc_fwd_slist_subtract`. -/
def slistSubtract (list1 list2 : List MccSrcEntry) : List MccSrcEntry :=
  list1.filter fun e1 => e1.sa ∉ addrs list2

/-- The loop of `mcc_grp_slist_unite`. -/
def slistAdd (list1 : List MccSrcEntry) (e2 : MccSrcEntry) : List MccSrcEntry :=
  if e2.sa ∈ addrs list1 then list1 else list1 ++ [e2]

/-- `mcc_grp_slist_unite` and `mcc_fwd_slist_unite`. -/
def slistUnite (list1 list2 : List MccSrcEntry) : List MccSrcEntry :=
  if list1 = [] then list2 else list2.foldl slistAdd list1

/-! ## The walk -/

/-- What a walk over clients or over groups looks at. -/
structure MccRecord where
  fmode : FilterMode
  srcList : List MccSrcEntry

/-- The mode after a walk: INCLUDE overwrites EXCLUDE and the other way round. -/
def walkMode (fmode : FilterMode) (records : List MccRecord) : FilterMode :=
  records.foldl (fun fmode record =>
    let fmode := if record.fmode = .incl then .incl else fmode
    if record.fmode = .excl then .excl else fmode) fmode

def listsOf (fmode : FilterMode) (records : List MccRecord) : List (List MccSrcEntry) :=
  (records.filter (·.fmode = fmode)).map MccRecord.srcList

/-- The sources after the walks over the records for a mode. -/
def walkSources (fmode : FilterMode) (records : List MccRecord) : List MccSrcEntry :=
  match fmode with
  | .excl => (listsOf .incl records).foldl slistSubtract
      ((listsOf .excl records).foldl slistIntersect [])
  | .incl => (records.map MccRecord.srcList).foldl slistUnite []

def sources (list : List MccSrcEntry) : Set MccIpAddr := {sa | sa ∈ addrs list ∧ sa ≠ mccIpAny}

def MccRecord.filter (record : MccRecord) : SourceFilter MccIpAddr :=
  ⟨record.fmode, sources record.srcList⟩

/-- Another list for an intersection: an empty one is not noticed, and one that has nothing in
common with the others ends the intersection. -/
def keepWith (kept : List (List MccSrcEntry)) (list : List MccSrcEntry) : List (List MccSrcEntry) :=
  if list = [] then kept
  else if kept = [] then [list]
  else if ∃ e ∈ list, ∀ other ∈ kept, e.sa ∈ addrs other then list :: kept
  else if isAny list then [list] else []

/-- The excluded lists that the intersection is made of, the latest first: those since it last
ran empty. -/
def sinceEmpty (lists : List (List MccSrcEntry)) : List (List MccSrcEntry) :=
  lists.foldl keepWith []

/-- What is common to the excluded lists since the intersection last ran empty, and in no
included one, is in all excluded ones. -/
def SourcesGuard (records : List MccRecord) : Prop :=
  ∀ sa, sa ≠ mccIpAny → sinceEmpty (listsOf .excl records) ≠ [] →
    (∀ list ∈ sinceEmpty (listsOf .excl records), sa ∈ addrs list) →
    (∀ list ∈ listsOf .incl records, sa ∉ addrs list) →
    ∀ list ∈ listsOf .excl records, sa ∈ addrs list

/-- When the walk computes the merged filter: no record excludes, and there is one or the mode
was INCLUDE before; or the last record excludes, and the intersection is right. -/
def MergeGuard (fmode : FilterMode) (records : List MccRecord) : Prop :=
  (∀ record ∈ records, record.fmode = .incl) ∧ (records = [] → fmode = .incl) ∨
    (records.getLast?.map MccRecord.fmode = some .excl) ∧ SourcesGuard records

theorem MergeGuard.of_ne_nil {fmode other : FilterMode} {records : List MccRecord}
    (hguard : MergeGuard fmode records) (hne : records ≠ []) : MergeGuard other records :=
  hguard.imp_left fun hincl => ⟨hincl.1, fun hnil => absurd hnil hne⟩

theorem MergeGuard.of_last {fmode : FilterMode} {records : List MccRecord}
    (hlast : records.getLast?.map MccRecord.fmode = some .excl)
    (hone : (listsOf .excl records).length = 1) : MergeGuard fmode records := by
  refine .inr ⟨hlast, fun sa _ hkept hcommon _ => ?_⟩
  obtain ⟨list, hlists⟩ := List.length_eq_one_iff.mp hone
  rw [hlists] at hkept hcommon ⊢
  by_cases hempty : list = []
  · exact absurd (by simp [sinceEmpty, keepWith, hempty]) hkept
  · simpa [sinceEmpty, keepWith, hempty] using hcommon

/-! A walk over what has records. -/

section Map

variable {β : Type*} (record : β → MccRecord)

theorem foldl_listsOf {mode : FilterMode}
    {op : List MccSrcEntry → List MccSrcEntry → List MccSrcEntry} {xs : List β}
    {list : List MccSrcEntry} : (listsOf mode (xs.map record)).foldl op list =
      xs.foldl (fun list x =>
        if (record x).fmode = mode then op list (record x).srcList else list) list := by
  induction xs generalizing list with
  | nil => rfl
  | cons x rest ih =>
      rw [List.foldl_cons, ← ih, List.map_cons]
      by_cases hmode : (record x).fmode = mode
      · simp only [listsOf, List.filter_cons, hmode, decide_true, if_true, List.map_cons,
          List.foldl_cons]
      · simp only [listsOf, List.filter_cons, hmode, decide_false, Bool.false_eq_true, if_false]

theorem walkSources_map_excl (xs : List β) :
    walkSources .excl (xs.map record) =
      xs.foldl (fun list x =>
        if (record x).fmode = .incl then slistSubtract list (record x).srcList else list)
        (xs.foldl (fun list x =>
          if (record x).fmode = .excl then slistIntersect list (record x).srcList else list)
          []) := by
  rw [walkSources, foldl_listsOf, foldl_listsOf]

theorem walkSources_map_incl (xs : List β) :
    walkSources .incl (xs.map record) =
      xs.foldl (fun list x => slistUnite list (record x).srcList) [] := by
  rw [walkSources, List.foldl_map, List.foldl_map]

end Map

section Walk

variable {list list1 list2 : List MccSrcEntry} {lists : List (List MccSrcEntry)} {sa : MccIpAddr}

theorem mem_addrs_filter (keep : MccIpAddr → Bool) :
    sa ∈ addrs (list.filter fun e => keep e.sa) ↔ sa ∈ addrs list ∧ keep sa = true := by
  constructor
  · intro hmem
    obtain ⟨e, he, rfl⟩ := List.mem_map.mp hmem
    obtain ⟨hlist, hkeep⟩ := List.mem_filter.mp he
    exact ⟨List.mem_map_of_mem hlist, hkeep⟩
  · rintro ⟨hmem, hkeep⟩
    obtain ⟨e, he, rfl⟩ := List.mem_map.mp hmem
    exact List.mem_map_of_mem (List.mem_filter.mpr ⟨he, hkeep⟩)

theorem mem_addrs_common :
    sa ∈ addrs (common list1 list2) ↔ sa ∈ addrs list1 ∧ sa ∈ addrs list2 :=
  (mem_addrs_filter fun sa => sa ∈ addrs list2).trans (and_congr_right' decide_eq_true_iff)

theorem exists_mem_addrs : (∃ sa, sa ∈ addrs list) ↔ list ≠ [] := by
  constructor
  · rintro ⟨sa, hsa⟩ rfl
    cases hsa
  · intro hne
    obtain ⟨e, he⟩ := List.exists_mem_of_ne_nil list hne
    exact ⟨e.sa, List.mem_map_of_mem he⟩

theorem mem_addrs_slistSubtract :
    sa ∈ addrs (slistSubtract list1 list2) ↔ sa ∈ addrs list1 ∧ sa ∉ addrs list2 :=
  (mem_addrs_filter fun sa => sa ∉ addrs list2).trans (and_congr_right' decide_eq_true_iff)

theorem mem_addrs_slistAdd {e2 : MccSrcEntry} :
    sa ∈ addrs (slistAdd list1 e2) ↔ sa ∈ addrs list1 ∨ sa = e2.sa := by
  unfold slistAdd
  split
  · rename_i hold
    refine (or_iff_left_of_imp ?_).symm
    rintro rfl
    exact hold
  · simp [addrs]

theorem mem_addrs_slistUnite :
    sa ∈ addrs (slistUnite list1 list2) ↔ sa ∈ addrs list1 ∨ sa ∈ addrs list2 := by
  unfold slistUnite
  split
  · rename_i hempty
    simp [hempty]
  · rename_i hsome
    clear hsome
    induction list2 generalizing list1 with
    | nil => simp
    | cons e2 rest ih =>
        rw [List.foldl_cons, ih, mem_addrs_slistAdd, or_assoc]
        simp only [addrs, List.map_cons, List.mem_cons]

theorem mem_foldl_slistSubtract :
    sa ∈ addrs (lists.foldl slistSubtract list) ↔
      sa ∈ addrs list ∧ ∀ other ∈ lists, sa ∉ addrs other := by
  induction lists generalizing list with
  | nil => simp
  | cons other rest ih =>
      rw [List.foldl_cons, ih, mem_addrs_slistSubtract, List.forall_mem_cons, and_assoc]

theorem mem_foldl_slistUnite :
    sa ∈ addrs (lists.foldl slistUnite list) ↔
      sa ∈ addrs list ∨ ∃ other ∈ lists, sa ∈ addrs other := by
  induction lists generalizing list with
  | nil => simp
  | cons other rest ih =>
      rw [List.foldl_cons, ih, mem_addrs_slistUnite, or_assoc]
      simp only [List.mem_cons, exists_eq_or_imp]

/-- A list is the intersection of the lists kept. -/
structure Kept (list : List MccSrcEntry) (kept : List (List MccSrcEntry)) : Prop where
  empty : list = [] ↔ kept = []
  mem : ∀ sa, sa ∈ addrs list ↔ kept ≠ [] ∧ ∀ other ∈ kept, sa ∈ addrs other

/-- One intersection. -/
theorem Kept.step {kept : List (List MccSrcEntry)} (h : Kept list1 kept) :
    Kept (slistIntersect list1 list2) (keepWith kept list2) := by
  have hfresh : list2 ≠ [] → Kept list2 [list2] := fun hne => ⟨by simp [hne], by simp⟩
  have hmeet : kept ≠ [] → ((∃ e ∈ list2, ∀ other ∈ kept, e.sa ∈ addrs other) ↔
      common list1 list2 ≠ []) := by
    intro hkept
    rw [← exists_mem_addrs]
    constructor
    · rintro ⟨e, he, hall⟩
      have hfirst : e.sa ∈ addrs list1 := (h.mem e.sa).mpr ⟨hkept, hall⟩
      exact ⟨e.sa, mem_addrs_common.mpr ⟨hfirst, List.mem_map_of_mem he⟩⟩
    · rintro ⟨sa, hsa⟩
      obtain ⟨hfirst, hsecond⟩ := mem_addrs_common.mp hsa
      obtain ⟨e, he, rfl⟩ := List.mem_map.mp hsecond
      exact ⟨e, he, ((h.mem e.sa).mp hfirst).2⟩
  unfold slistIntersect keepWith
  by_cases hempty : list2 = []
  · rw [if_pos hempty, if_pos hempty]
    exact h
  · rw [if_neg hempty, if_neg hempty]
    by_cases hkept : kept = []
    · rw [if_pos hkept, if_pos (h.empty.mpr hkept)]
      exact hfresh hempty
    · rw [if_neg hkept, if_neg (mt h.empty.mp hkept)]
      by_cases hsome : ∃ e ∈ list2, ∀ other ∈ kept, e.sa ∈ addrs other
      · have hcommon := (hmeet hkept).mp hsome
        rw [if_pos hsome, if_neg fun hany => hcommon hany.2]
        refine ⟨iff_of_false hcommon (List.cons_ne_nil _ _), fun sa => ?_⟩
        rw [mem_addrs_common, h.mem, and_iff_right hkept,
          and_iff_right (List.cons_ne_nil _ _), List.forall_mem_cons, and_comm]
      · have hcommon : common list1 list2 = [] := not_not.mp (mt (hmeet hkept).mpr hsome)
        rw [if_neg hsome]
        by_cases hany : isAny list2 = true
        · rw [if_pos hany, if_pos ⟨hany, hcommon⟩]
          exact hfresh hempty
        · rw [if_neg hany, if_neg fun hboth => hany hboth.1, hcommon]
          exact ⟨by simp, by simp⟩

theorem Kept.foldl {kept : List (List MccSrcEntry)} (h : Kept list kept) :
    Kept (lists.foldl slistIntersect list) (lists.foldl keepWith kept) := by
  induction lists generalizing list kept with
  | nil => exact h
  | cons other rest ih => exact ih h.step

theorem kept_sinceEmpty (lists : List (List MccSrcEntry)) :
    Kept (lists.foldl slistIntersect []) (sinceEmpty lists) :=
  Kept.foldl ⟨by simp, by simp⟩

/-- What is in all lists is in the intersection. -/
theorem mem_foldl_slistIntersect (hall : ∀ other ∈ lists, sa ∈ addrs other)
    (hlist : sa ∈ addrs list ∨ list = [] ∧ lists ≠ []) :
    sa ∈ addrs (lists.foldl slistIntersect list) := by
  induction lists generalizing list with
  | nil => simpa using hlist
  | cons other rest ih =>
      obtain ⟨hother, hrest⟩ := List.forall_mem_cons.mp hall
      refine ih hrest (.inl ?_)
      have hne : other ≠ [] := by
        rintro rfl
        cases hother
      unfold slistIntersect
      rw [if_neg hne]
      split
      · exact hother
      · rename_i hsome
        have hold : sa ∈ addrs list := hlist.resolve_right fun hempty => hsome hempty.1
        have hcommon : sa ∈ addrs (common list other) := mem_addrs_common.mpr ⟨hold, hother⟩
        rw [if_neg]
        · exact hcommon
        · rintro ⟨_, hnil⟩
          rw [hnil] at hcommon
          cases hcommon

/-! ## The merged filter -/

variable {records : List MccRecord} {fmode : FilterMode}

theorem mem_listsOf {mode : FilterMode} :
    list ∈ listsOf mode records ↔
      ∃ record ∈ records, record.fmode = mode ∧ record.srcList = list := by
  simp [listsOf, and_assoc]

theorem walkMode_eq : walkMode fmode records = (records.getLast?.map MccRecord.fmode).getD fmode := by
  unfold walkMode
  induction records generalizing fmode with
  | nil => rfl
  | cons record rest ih =>
      have hmode : (let fmode := if record.fmode = .incl then .incl else fmode
          if record.fmode = .excl then .excl else fmode) = record.fmode := by
        cases record.fmode <;> rfl
      rw [List.foldl_cons, hmode, ih]
      cases rest with
      | nil => rfl
      | cons other rest =>
          rw [List.getLast?_cons_cons, List.getLast?_eq_some_getLast (List.cons_ne_nil _ _)]
          rfl

theorem walkMode_of_forall {mode : FilterMode} (hmode : ∀ record ∈ records, record.fmode = mode)
    (hne : records ≠ []) : walkMode fmode records = mode := by
  rw [walkMode_eq, List.getLast?_eq_some_getLast hne]
  exact hmode _ (List.getLast_mem hne)

theorem mem_walkSources_excl :
    sa ∈ addrs (walkSources .excl records) ↔ (sinceEmpty (listsOf .excl records) ≠ [] ∧
        ∀ list ∈ sinceEmpty (listsOf .excl records), sa ∈ addrs list) ∧
      ∀ list ∈ listsOf .incl records, sa ∉ addrs list := by
  rw [walkSources, mem_foldl_slistSubtract, (kept_sinceEmpty _).mem]

theorem mem_walkSources_incl :
    sa ∈ addrs (walkSources .incl records) ↔ ∃ record ∈ records, sa ∈ addrs record.srcList := by
  rw [walkSources, mem_foldl_slistUnite]
  simp

theorem mem_included : sa ∈ SourceFilter.included (records.map MccRecord.filter) ↔
    (∃ list ∈ listsOf .incl records, sa ∈ addrs list) ∧ sa ≠ mccIpAny := by
  constructor
  · rintro ⟨_, hfilter, hmode, hsource⟩
    obtain ⟨record, hrecord, rfl⟩ := List.mem_map.mp hfilter
    obtain ⟨hsa, hany⟩ := hsource
    exact ⟨⟨record.srcList, mem_listsOf.mpr ⟨record, hrecord, hmode, rfl⟩, hsa⟩, hany⟩
  · rintro ⟨⟨_, hlist, hsa⟩, hany⟩
    obtain ⟨record, hrecord, hmode, rfl⟩ := mem_listsOf.mp hlist
    exact ⟨record.filter, List.mem_map_of_mem hrecord, hmode, hsa, hany⟩

/-- What all excluding records name. -/
theorem mem_excluded (hexcl : ∃ record ∈ records, record.fmode = .excl) :
    sa ∈ SourceFilter.excluded (records.map MccRecord.filter) ↔
      (∀ list ∈ listsOf .excl records, sa ∈ addrs list) ∧ sa ≠ mccIpAny := by
  constructor
  · intro hsa
    have hnamed : ∀ record ∈ records, record.fmode = .excl →
        sa ∈ addrs record.srcList ∧ sa ≠ mccIpAny :=
      fun record hrecord hmode => hsa record.filter (List.mem_map_of_mem hrecord) hmode
    constructor
    · intro list hlist
      obtain ⟨record, hrecord, hmode, rfl⟩ := mem_listsOf.mp hlist
      exact (hnamed record hrecord hmode).1
    · obtain ⟨record, hrecord, hmode⟩ := hexcl
      exact (hnamed record hrecord hmode).2
  · rintro ⟨hall, hany⟩ _ hfilter hmode
    obtain ⟨record, hrecord, rfl⟩ := List.mem_map.mp hfilter
    exact ⟨hall _ (mem_listsOf.mpr ⟨record, hrecord, hmode, rfl⟩), hany⟩

/-- The sources are those of the merged filter exactly under the guard. -/
theorem sources_walkSources_excl (hexcl : ∃ record ∈ records, record.fmode = .excl) :
    sources (walkSources .excl records) =
        SourceFilter.excluded (records.map MccRecord.filter) \
          SourceFilter.included (records.map MccRecord.filter) ↔
      SourcesGuard records := by
  have hlists : listsOf .excl records ≠ [] := by
    obtain ⟨record, hrecord, hmode⟩ := hexcl
    exact List.ne_nil_of_mem (mem_listsOf.mpr ⟨record, hrecord, hmode, rfl⟩)
  constructor
  · intro hsame sa hany hkept hcommon hincl
    have hleft : sa ∈ sources (walkSources .excl records) :=
      ⟨mem_walkSources_excl.mpr ⟨⟨hkept, hcommon⟩, hincl⟩, hany⟩
    rw [hsame] at hleft
    exact ((mem_excluded hexcl).mp hleft.1).1
  · intro hguard
    ext sa
    constructor
    · rintro ⟨hsa, hany⟩
      obtain ⟨⟨hkept, hcommon⟩, hincl⟩ := mem_walkSources_excl.mp hsa
      refine ⟨(mem_excluded hexcl).mpr ⟨hguard sa hany hkept hcommon hincl, hany⟩, ?_⟩
      intro hincluded
      obtain ⟨⟨list, hlist, hmem⟩, _⟩ := mem_included.mp hincluded
      exact hincl list hlist hmem
    · rintro ⟨hexcluded, hincluded⟩
      obtain ⟨hall, hany⟩ := (mem_excluded hexcl).mp hexcluded
      refine ⟨?_, hany⟩
      rw [walkSources, mem_foldl_slistSubtract]
      refine ⟨mem_foldl_slistIntersect hall (.inr ⟨rfl, hlists⟩), fun list hlist hmem => ?_⟩
      exact hincluded (mem_included.mpr ⟨⟨list, hlist, hmem⟩, hany⟩)

theorem sources_walkSources_incl (hincl : ∀ record ∈ records, record.fmode = .incl) :
    sources (walkSources .incl records) =
      SourceFilter.included (records.map MccRecord.filter) := by
  ext sa
  rw [mem_included, sources, Set.mem_ofPred_eq, mem_walkSources_incl]
  refine and_congr_left fun _ => ?_
  constructor
  · rintro ⟨record, hrecord, hsa⟩
    exact ⟨_, mem_listsOf.mpr ⟨record, hrecord, hincl record hrecord, rfl⟩, hsa⟩
  · rintro ⟨_, hlist, hsa⟩
    obtain ⟨record, hrecord, _, rfl⟩ := mem_listsOf.mp hlist
    exact ⟨record, hrecord, hsa⟩

/-- A walk computes the merged filter exactly under the guard. -/
theorem mccWalk_filter_iff (fmode : FilterMode) (records : List MccRecord) :
    (⟨walkMode fmode records, sources (walkSources (walkMode fmode records) records)⟩ :
        SourceFilter MccIpAddr) = SourceFilter.merge (records.map MccRecord.filter) ↔
      MergeGuard fmode records := by
  by_cases hexcl : ∃ record ∈ records, record.fmode = .excl
  · have hfilters : ∃ filter ∈ records.map MccRecord.filter, filter.mode = .excl := by
      obtain ⟨record, hrecord, hmode⟩ := hexcl
      exact ⟨_, List.mem_map_of_mem hrecord, hmode⟩
    have hnot : ¬ ∀ record ∈ records, record.fmode = .incl := by
      obtain ⟨record, hrecord, hmode⟩ := hexcl
      intro hincl
      rw [hincl record hrecord] at hmode
      cases hmode
    have hne : records ≠ [] := by
      rintro rfl
      obtain ⟨_, hrecord, _⟩ := hexcl
      cases hrecord
    have hmode : walkMode fmode records = .excl ↔
        records.getLast?.map MccRecord.fmode = some .excl := by
      rw [walkMode_eq, List.getLast?_eq_some_getLast hne]
      simp
    rw [SourceFilter.merge_of_excl hfilters, SourceFilter.mk.injEq, MergeGuard, ← hmode]
    constructor
    · rintro ⟨hwalk, hsources⟩
      rw [hwalk] at hsources
      exact .inr ⟨hwalk, (sources_walkSources_excl hexcl).mp hsources⟩
    · rintro (hincl | ⟨hwalk, hguard⟩)
      · exact absurd hincl.1 hnot
      · rw [hwalk]
        exact ⟨rfl, (sources_walkSources_excl hexcl).mpr hguard⟩
  · have hfilters : ¬ ∃ filter ∈ records.map MccRecord.filter, filter.mode = .excl := by
      rintro ⟨_, hfilter, hmode⟩
      obtain ⟨record, hrecord, rfl⟩ := List.mem_map.mp hfilter
      exact hexcl ⟨record, hrecord, hmode⟩
    have hincl : ∀ record ∈ records, record.fmode = .incl := by
      intro record hrecord
      cases hmode : record.fmode with
      | incl => rfl
      | excl => exact absurd ⟨record, hrecord, hmode⟩ hexcl
    have hlast : records.getLast?.map MccRecord.fmode ≠ some .excl := by
      intro hlast
      obtain ⟨record, hrecord, hmode⟩ := Option.map_eq_some_iff.mp hlast
      exact hexcl ⟨record, List.mem_of_getLast? hrecord, hmode⟩
    have hmode : walkMode fmode records = .incl ↔ (records = [] → fmode = .incl) := by
      rw [walkMode_eq]
      cases hrecords : records.getLast? with
      | none => simp [List.getLast?_eq_none_iff.mp hrecords]
      | some record =>
          have hmem := List.mem_of_getLast? hrecords
          simp [hincl record hmem, List.ne_nil_of_mem hmem]
    rw [SourceFilter.merge_of_incl hfilters, SourceFilter.mk.injEq, MergeGuard, ← hmode]
    constructor
    · rintro ⟨hwalk, _⟩
      exact .inl ⟨hincl, hwalk⟩
    · rintro (⟨_, hwalk⟩ | ⟨hexcl, _⟩)
      · rw [hwalk]
        exact ⟨rfl, sources_walkSources_incl hincl⟩
      · exact absurd hexcl hlast

end Walk

end FalconGpon.Mcc
