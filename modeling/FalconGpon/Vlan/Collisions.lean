/-
# Colliding rules

`detect_ds_collisions` looks at the VIDs of rules that are neither wildcards nor discard, and groups
the filter VIDs of those with one treatment VID: the first four treatment VIDs with two filter VIDs,
and of each the first eight (`detectDsCollisions_eq`). Two rules collide only if they filter on an
inner tag and give the frame one; the function does not look at the priorities, which tell this, nor
at the values of the treatment VID that stand for a copy (`detectDsCollisions_iff`).
-/

import FalconGpon.Lib.Grouping
import FalconGpon.Vlan.Split

namespace FalconGpon.Vlan

open FalconGpon.Lib

/-! ## The groups by first occurrence -/

def RxVlanOperTable.vids (e : RxVlanOperTable) : BitVec 13 × BitVec 13 :=
  (e.treatmentInnerVid, e.filterInnerVid)

def splitVids (rules : List RxVlanOperTable) : List (BitVec 13 × BitVec 13) :=
  (rules.filter (·.splits)).map (·.vids)

def groupAt (vids : List (BitVec 13 × BitVec 13)) (vid : BitVec 13) : DsCollisionGroup where
  treatmentVid := vid
  filterVids := (valuesAt vids vid).eraseDups.take 8

def groupsAt (maxGroups : Nat) (vids : List (BitVec 13 × BitVec 13)) (heads : List (BitVec 13)) :
    List DsCollisionGroup :=
  ((heads.filter (Shared vids)).take maxGroups).map (groupAt vids)

section Run

variable {maxGroups : Nat} {e : RxVlanOperTable} {front later : List RxVlanOperTable}

theorem splitVids_append (front later : List RxVlanOperTable) :
    splitVids (front ++ later) = splitVids front ++ splitVids later := by
  rw [splitVids, List.filter_append, List.map_append]
  rfl

theorem splitVids_cons_of_splits (h : e.splits = true) :
    splitVids (e :: later) = e.vids :: splitVids later := by
  rw [splitVids, List.filter_cons_of_pos h]
  rfl

theorem splitVids_cons_of_not (h : ¬ e.splits = true) :
    splitVids (e :: later) = splitVids later := by
  rw [splitVids, List.filter_cons_of_neg h]
  rfl

theorem foldl_add (vids : List (BitVec 13)) (group : DsCollisionGroup) :
    vids.foldl DsCollisionGroup.add group =
      { group with filterVids := vids.foldl (addUpTo 8) group.filterVids } := by
  induction vids generalizing group with
  | nil => rfl
  | cons vid vids ih =>
      have hadd : group.add vid = { group with filterVids := addUpTo 8 group.filterVids vid } := by
        rw [DsCollisionGroup.add, addUpTo]
        split <;> rfl
      rw [List.foldl_cons, ih, hadd, List.foldl_cons]

theorem collidingVids_eq (e : RxVlanOperTable) (later : List RxVlanOperTable) :
    collidingVids e later = (valuesAt (splitVids later) e.treatmentInnerVid).filter
        fun vid => !vid == e.filterInnerVid := by
  rw [collidingVids, valuesAt, splitVids, List.filter_map, List.filter_map, List.filter_map,
    List.map_map, List.filter_filter, List.filter_filter]
  have hsame : ∀ e' : RxVlanOperTable,
      decide (e'.splits = true ∧ e.treatmentInnerVid = e'.treatmentInnerVid ∧
        e.filterInnerVid ≠ e'.filterInnerVid) =
      ((!e'.filterInnerVid == e.filterInnerVid) &&
        decide (e'.treatmentInnerVid = e.treatmentInnerVid) && e'.splits) := by
    intro e'
    rw [Bool.eq_iff_iff]
    simp only [Bool.and_eq_true, decide_eq_true_iff, Bool.not_eq_true', beq_eq_false_iff_ne]
    constructor
    · rintro ⟨hsplits, htreatment, hfilter⟩
      exact ⟨⟨hfilter.symm, htreatment.symm⟩, hsplits⟩
    · rintro ⟨⟨hfilter, htreatment⟩, hsplits⟩
      exact ⟨hsplits, htreatment.symm, hfilter.symm⟩
  exact congrArg (List.map (·.filterInnerVid)) (List.filter_congr fun e' _ => hsame e')

theorem valuesAt_of_first (hsplits : e.splits = true)
    (hfirst : e.treatmentInnerVid ∉ keysOf (splitVids front)) :
    valuesAt (splitVids (front ++ e :: later)) e.treatmentInnerVid =
      e.filterInnerVid :: valuesAt (splitVids later) e.treatmentInnerVid := by
  rw [splitVids_append, valuesAt_append, valuesAt_eq_nil hfirst, splitVids_cons_of_splits hsplits,
    List.nil_append, RxVlanOperTable.vids, valuesAt_cons_self]

theorem shared_iff_of_first (hsplits : e.splits = true)
    (hfirst : e.treatmentInnerVid ∉ keysOf (splitVids front)) :
    Shared (splitVids (front ++ e :: later)) e.treatmentInnerVid ↔ collidingVids e later ≠ [] := by
  rw [Shared, valuesAt_of_first hsplits hfirst, collidingVids_eq, ne_eq, List.filter_eq_nil_iff]
  simp only [Bool.not_eq_true', beq_eq_false_iff_ne, ne_eq, not_not]
  constructor
  · intro ⟨a, ha, b, hb, hne⟩ hsame
    have hall : ∀ vid ∈ e.filterInnerVid :: valuesAt (splitVids later) e.treatmentInnerVid,
        vid = e.filterInnerVid := List.forall_mem_cons.mpr ⟨rfl, hsame⟩
    exact hne ((hall a ha).trans (hall b hb).symm)
  · intro hdiffer
    push Not at hdiffer
    have ⟨vid, hvid, hne⟩ := hdiffer
    exact ⟨vid, List.mem_cons_of_mem _ hvid, _, List.mem_cons_self, hne⟩

theorem shared_of_collidingVids (hsplits : e.splits = true) (hvids : collidingVids e later ≠ []) :
    Shared (splitVids (front ++ e :: later)) e.treatmentInnerVid := by
  have ⟨vid, hvid⟩ := List.exists_mem_of_ne_nil _ hvids
  rw [collidingVids_eq, List.mem_filter, mem_valuesAt] at hvid
  rw [splitVids_append, splitVids_cons_of_splits hsplits]
  refine ⟨e.filterInnerVid, mem_valuesAt.mpr ?_, vid, mem_valuesAt.mpr ?_, ?_⟩
  · exact List.mem_append_right _ List.mem_cons_self
  · exact List.mem_append_right _ (List.mem_cons_of_mem _ hvid.1)
  · intro heq
    rw [heq] at hvid
    simp at hvid

/-- The group of a rule that comes first with its treatment VID. -/
theorem foldl_add_of_first (hsplits : e.splits = true)
    (hfirst : e.treatmentInnerVid ∉ keysOf (splitVids front)) :
    (collidingVids e later).foldl DsCollisionGroup.add ⟨e.treatmentInnerVid, [e.filterInnerVid]⟩ =
      groupAt (splitVids (front ++ e :: later)) e.treatmentInnerVid := by
  have hkept : (collidingVids e later).foldl (addUpTo 8) ([e.filterInnerVid].take 8) =
      ([e.filterInnerVid] ++ collidingVids e later).eraseDups.take 8 :=
    foldl_addUpTo (List.nodup_singleton e.filterInnerVid)
  have hothers : (collidingVids e later).filter (fun vid => !vid == e.filterInnerVid) =
      collidingVids e later := by
    rw [collidingVids_eq, List.filter_filter]
    simp only [Bool.and_self]
  rw [List.singleton_append, List.eraseDups_cons, hothers, collidingVids_eq,
    ← List.eraseDups_cons, ← valuesAt_of_first hsplits hfirst] at hkept
  rw [foldl_add, groupAt, ← hkept, collidingVids_eq]
  rfl

/-- Rules that collide with a later rule of a group are in the group already. -/
theorem foldl_add_groupAt (hsplits : e.splits = true) :
    (collidingVids e later).foldl DsCollisionGroup.add
        (groupAt (splitVids (front ++ e :: later)) e.treatmentInnerVid) =
      groupAt (splitVids (front ++ e :: later)) e.treatmentInnerVid := by
  have hsubset : collidingVids e later ⊆
      (valuesAt (splitVids (front ++ e :: later)) e.treatmentInnerVid).eraseDups := by
    intro vid hvid
    rw [collidingVids_eq] at hvid
    rw [List.mem_eraseDups, splitVids_append, splitVids_cons_of_splits hsplits, mem_valuesAt]
    have hlater := mem_valuesAt.mp (List.mem_of_mem_filter hvid)
    exact List.mem_append_right _ (List.mem_cons_of_mem _ hlater)
  rw [foldl_add, groupAt]
  simp only
  rw [foldl_addUpTo (nodup_eraseDups _), eraseDups_append_of_subset hsubset,
    eraseDups_eq_self (nodup_eraseDups _)]

theorem groupsAt_of_room {vids : List (BitVec 13 × BitVec 13)} {heads : List (BitVec 13)}
    (hroom : (groupsAt maxGroups vids heads).length < maxGroups) :
    (heads.filter (Shared vids)).length < maxGroups ∧
      groupsAt maxGroups vids heads = (heads.filter (Shared vids)).map (groupAt vids) := by
  rw [groupsAt, List.length_map, List.length_take] at hroom
  have hlength : (heads.filter (Shared vids)).length < maxGroups := by omega
  rw [groupsAt, List.take_of_length_le (Nat.le_of_lt hlength)]
  exact ⟨hlength, rfl⟩

/-- One rule. -/
theorem collide_groupsAt {heads : List (BitVec 13)} (hsplits : e.splits = true)
    (hheads : heads = keysOf (splitVids front))
    (hroom : (groupsAt maxGroups (splitVids (front ++ e :: later)) heads).length < maxGroups) :
    collide (groupsAt maxGroups (splitVids (front ++ e :: later)) heads) e later =
      groupsAt maxGroups (splitVids (front ++ e :: later)) (keysOf (splitVids (front ++ [e]))) := by
  have hnext : keysOf (splitVids (front ++ [e])) =
      if e.treatmentInnerVid ∈ heads then heads else heads ++ [e.treatmentInnerVid] := by
    rw [hheads, splitVids_append, splitVids_cons_of_splits hsplits]
    exact keysOf_concat _ _
  have ⟨hlength, hgroups⟩ := groupsAt_of_room hroom
  rw [hnext, collide]
  by_cases hhead : e.treatmentInnerVid ∈ heads
  · rw [if_pos hhead]
    split
    · rfl
    · rename_i vid vids hvids
      -- the treatment VID is shared, so its group is there, with all that is added
      have hsame : ∀ group ∈ groupsAt maxGroups (splitVids (front ++ e :: later)) heads,
          (if group.treatmentVid = e.treatmentInnerVid then
            (collidingVids e later).foldl DsCollisionGroup.add group else group) = group := by
        intro group hgroup
        split
        · rename_i htreatment
          have ⟨head, _, hat⟩ := List.mem_map.mp hgroup
          rw [← hat] at htreatment ⊢
          have hkey : head = e.treatmentInnerVid := htreatment
          rw [hkey, foldl_add_groupAt hsplits]
        · rfl
      have hany : (groupsAt maxGroups (splitVids (front ++ e :: later)) heads).any
          (·.treatmentVid = e.treatmentInnerVid) = true := by
        have hshared : Shared (splitVids (front ++ e :: later)) e.treatmentInnerVid :=
          shared_of_collidingVids hsplits (ne_of_eq_of_ne hvids (List.cons_ne_nil _ _))
        rw [hgroups, List.any_eq_true]
        exact ⟨groupAt _ e.treatmentInnerVid, List.mem_map_of_mem (List.mem_filter.mpr
          ⟨hhead, decide_eq_true hshared⟩), decide_eq_true rfl⟩
      rw [← hvids, if_pos hany]
      exact (List.map_congr_left hsame).trans (List.map_id _)
  · rw [if_neg hhead]
    have hshared : Shared (splitVids (front ++ e :: later)) e.treatmentInnerVid ↔
        collidingVids e later ≠ [] :=
      shared_iff_of_first hsplits (hheads ▸ hhead)
    split
    · rename_i hvids
      have hlast : [e.treatmentInnerVid].filter
          (fun vid => Shared (splitVids (front ++ e :: later)) vid) = [] := by
        simp [hshared, hvids]
      rw [groupsAt, groupsAt, List.filter_append, hlast, List.append_nil]
    · rename_i vid vids hvids
      have hlast : [e.treatmentInnerVid].filter
          (fun vid => Shared (splitVids (front ++ e :: later)) vid) = [e.treatmentInnerVid] := by
        simp [hshared, hvids]
      have hany : ¬ (groupsAt maxGroups (splitVids (front ++ e :: later)) heads).any
          (·.treatmentVid = e.treatmentInnerVid) = true := by
        rw [hgroups, List.any_eq_true]
        intro ⟨group, hgroup, htreatment⟩
        have ⟨head, hmem, hat⟩ := List.mem_map.mp hgroup
        rw [← hat] at htreatment
        have hkey : head = e.treatmentInnerVid := of_decide_eq_true htreatment
        exact hhead (hkey ▸ List.mem_of_mem_filter hmem)
      rw [← hvids, if_neg hany, hgroups, foldl_add_of_first hsplits (hheads ▸ hhead), groupsAt,
        List.filter_append, hlast, List.take_of_length_le (by simpa using Nat.succ_le_of_lt hlength),
        List.map_append, List.map_singleton]

/-- The groups of the rules up to one that comes next. -/
theorem detectDsCollisions_from (front later : List RxVlanOperTable) :
    detectDsCollisions maxGroups
        (groupsAt maxGroups (splitVids (front ++ later)) (keysOf (splitVids front))) later =
      groupsAt maxGroups (splitVids (front ++ later)) (keysOf (splitVids (front ++ later))) := by
  induction later generalizing front with
  | nil => rw [List.append_nil, detectDsCollisions]
  | cons e later ih =>
      have hnext : front ++ e :: later = front ++ [e] ++ later := by simp
      rw [detectDsCollisions]
      split
      · rename_i hroom
        have hstep : (if e.splits then
            collide (groupsAt maxGroups (splitVids (front ++ e :: later))
              (keysOf (splitVids front))) e later
            else groupsAt maxGroups (splitVids (front ++ e :: later)) (keysOf (splitVids front))) =
              groupsAt maxGroups (splitVids (front ++ [e] ++ later))
                (keysOf (splitVids (front ++ [e]))) := by
          split
          · rename_i hsplits
            rw [collide_groupsAt hsplits rfl hroom, hnext]
          · rename_i hsplits
            have hnone : splitVids [] = [] := rfl
            rw [splitVids_append front [e], splitVids_cons_of_not hsplits, hnext, hnone,
              List.append_nil]
        rw [hstep, ih, hnext]
      · rename_i hfull
        rw [splitVids_append, groupsAt, groupsAt]
        have ⟨more, hmore⟩ := keysOf_prefix_append (splitVids front) (splitVids (e :: later))
        rw [groupsAt, splitVids_append, List.length_map, List.length_take] at hfull
        rw [← hmore, List.filter_append, List.take_append_of_le_length (by omega)]

theorem detectDsCollisions_eq (rules : List RxVlanOperTable) :
    detectDsCollisions maxGroups [] rules =
      ((sharedKeys (splitVids rules)).take maxGroups).map (groupAt (splitVids rules)) := by
  have hnone : groupsAt maxGroups (splitVids rules) (keysOf (splitVids [])) = [] := by
    simp [groupsAt, keysOf, splitVids]
  have hrun := @detectDsCollisions_from maxGroups [] rules
  rw [List.nil_append, hnone] at hrun
  exact hrun

end Run

/-! ## Rules that collide -/

namespace RxVlanOperTable

def filtersVid (e : RxVlanOperTable) : Bool :=
  e.filterInnerPrio ≠ 15 ∧ e.filterInnerVid.toNat < 4095

/-- The rule gives the frame a VID that is written in it: it adds an inner tag and does not copy
the VID. -/
def givesVid (e : RxVlanOperTable) : Bool :=
  e.treatmentTagsRemove ≠ 3 ∧ e.treatmentInnerPrio ≠ 15 ∧ e.treatmentInnerVid.toNat < 4096

/-- Different frames get one VID. -/
structure Collides (e e' : RxVlanOperTable) : Prop where
  filters : e.filtersVid = true ∧ e'.filtersVid = true
  gives : e.givesVid = true ∧ e'.givesVid = true
  differ : e.filterInnerVid ≠ e'.filterInnerVid
  same : e.treatmentInnerVid = e'.treatmentInnerVid

end RxVlanOperTable

def translatedVids (rules : List RxVlanOperTable) : List (BitVec 13 × BitVec 13) :=
  (rules.filter fun e => e.filtersVid ∧ e.givesVid).map (·.vids)

/-- There are at most four groups of colliding rules, of at most eight VIDs. -/
structure FewCollisions (rules : List RxVlanOperTable) : Prop where
  groups : (sharedKeys (translatedVids rules)).length ≤ 4
  vids : ∀ vid ∈ sharedKeys (translatedVids rules),
    (valuesAt (translatedVids rules) vid).eraseDups.length ≤ 8

/-- The groups are those of the colliding rules. -/
structure GroupsCollisions (rules : List RxVlanOperTable) (groups : List DsCollisionGroup) :
    Prop where
  together : ∀ treatment vid vid', vid ≠ vid' →
    ((∃ group ∈ groups, group.treatmentVid = treatment ∧ vid ∈ group.filterVids ∧
        vid' ∈ group.filterVids) ↔
      ∃ e ∈ rules, ∃ e' ∈ rules, e.Collides e' ∧ e.treatmentInnerVid = treatment ∧
        e.filterInnerVid = vid ∧ e'.filterInnerVid = vid')
  once : ∀ group ∈ groups, group.filterVids.Nodup
  heads : (groups.map (·.treatmentVid)).Nodup

/-- Two rules seem to collide: they are neither wildcards nor discard, and have one treatment VID and
different filter VIDs. -/
structure RxVlanOperTable.Seem (e e' : RxVlanOperTable) : Prop where
  splits : e.splits = true ∧ e'.splits = true
  differ : e.filterInnerVid ≠ e'.filterInnerVid
  same : e.treatmentInnerVid = e'.treatmentInnerVid

/-- There is no room left for a rule that seems to collide: four other treatment VIDs come first in
the array, or eight other filter VIDs of its treatment VID. -/
def Crowded (rules : List RxVlanOperTable) (e : RxVlanOperTable) : Prop :=
  4 ≤ (sharedKeys (splitVids rules)).idxOf e.treatmentInnerVid ∨
    8 ≤ (valuesAt (splitVids rules) e.treatmentInnerVid).eraseDups.idxOf e.filterInnerVid

/-- Every rule that seems to collide has the VIDs of one that filters on a VID and gives one. -/
def SeemingTranslate (rules : List RxVlanOperTable) : Prop :=
  ∀ e ∈ rules, ∀ e' ∈ rules, e.Seem e' → ¬ Crowded rules e →
    ∃ other ∈ rules, other.filtersVid = true ∧ other.givesVid = true ∧
      other.treatmentInnerVid = e.treatmentInnerVid ∧ other.filterInnerVid = e.filterInnerVid

/-- The same of the VIDs that there is room for. -/
def FirstTranslate (rules : List RxVlanOperTable) : Prop :=
  ∀ treatment ∈ (sharedKeys (splitVids rules)).take 4,
    ∀ vid ∈ (valuesAt (splitVids rules) treatment).eraseDups.take 8,
      (treatment, vid) ∈ translatedVids rules

section Collisions

variable {rules : List RxVlanOperTable} {treatment vid vid' : BitVec 13}

theorem mem_translatedVids : (treatment, vid) ∈ translatedVids rules ↔
      ∃ e ∈ rules, e.filtersVid = true ∧ e.givesVid = true ∧ e.treatmentInnerVid = treatment ∧
        e.filterInnerVid = vid := by
  rw [translatedVids, List.mem_map]
  constructor
  · intro ⟨e, he, hvids⟩
    rw [List.mem_filter, decide_eq_true_iff] at he
    rw [RxVlanOperTable.vids, Prod.mk_inj] at hvids
    exact ⟨e, he.1, he.2.1, he.2.2, hvids⟩
  · intro ⟨e, he, hfilters, hgives, hvids⟩
    exact ⟨e, List.mem_filter.mpr ⟨he, decide_eq_true ⟨hfilters, hgives⟩⟩, Prod.mk_inj.mpr hvids⟩

theorem mem_splitVids : (treatment, vid) ∈ splitVids rules ↔
      ∃ e ∈ rules, e.splits = true ∧ e.treatmentInnerVid = treatment ∧ e.filterInnerVid = vid := by
  simp only [splitVids, List.mem_map, List.mem_filter, RxVlanOperTable.vids, Prod.mk.injEq,
    and_assoc]

/-- There is room for the VIDs that come first. -/
theorem firstTranslate_iff : FirstTranslate rules ↔ SeemingTranslate rules := by
  constructor
  · intro h e he e' he' hseem hroom
    rw [Crowded, not_or, Nat.not_le, Nat.not_le] at hroom
    have hvid := mem_valuesAt.mpr (mem_splitVids.mpr ⟨e, he, hseem.splits.1, rfl, rfl⟩)
    have hvid' := mem_valuesAt.mpr (mem_splitVids.mpr ⟨e', he', hseem.splits.2, hseem.same.symm, rfl⟩)
    have hshared : e.treatmentInnerVid ∈ sharedKeys (splitVids rules) :=
      mem_sharedKeys.mpr ⟨_, hvid, _, hvid', hseem.differ⟩
    exact mem_translatedVids.mp (h _ ((List.mem_take_iff_idxOf_lt hshared).mpr hroom.1) _
      ((List.mem_take_iff_idxOf_lt (List.mem_eraseDups.mpr hvid)).mpr hroom.2))
  · intro h treatment htreatment vid hvid
    have hshared := List.mem_of_mem_take htreatment
    have hvalue := List.mem_of_mem_take hvid
    have ⟨e, he, hsplits, hkey, hfilter⟩ :=
      mem_splitVids.mp (mem_valuesAt.mp (List.mem_eraseDups.mp hvalue))
    have ⟨a, ha, b, hb, hdiffer⟩ := mem_sharedKeys.mp hshared
    have hother : ∃ vid' ∈ valuesAt (splitVids rules) treatment, vid ≠ vid' := by
      by_cases heq : vid = a
      · exact ⟨b, hb, heq ▸ hdiffer⟩
      · exact ⟨a, ha, heq⟩
    have ⟨vid', hvid', hne⟩ := hother
    have ⟨e', he', hsplits', hkey', hfilter'⟩ := mem_splitVids.mp (mem_valuesAt.mp hvid')
    subst hkey hfilter hfilter'
    have hroom : ¬ Crowded rules e := by
      rw [Crowded, not_or, Nat.not_le, Nat.not_le]
      exact ⟨(List.mem_take_iff_idxOf_lt hshared).mp htreatment,
        (List.mem_take_iff_idxOf_lt hvalue).mp hvid⟩
    exact mem_translatedVids.mpr (h e he e' he' ⟨⟨hsplits, hsplits'⟩, hne, hkey'.symm⟩ hroom)

theorem translatedVids_subset : translatedVids rules ⊆ splitVids rules := by
  intro p hp
  have ⟨e, he, hvids⟩ := List.mem_map.mp hp
  rw [List.mem_filter, decide_eq_true_iff, RxVlanOperTable.filtersVid, RxVlanOperTable.givesVid,
    decide_eq_true_iff, decide_eq_true_iff] at he
  have hsplits : e.splits = true := decide_eq_true ⟨he.2.1.2, he.2.2.1⟩
  exact List.mem_map.mpr ⟨e, List.mem_filter.mpr ⟨he.1, hsplits⟩, hvids⟩

/-- Two rules collide with these VIDs. -/
theorem exists_collides_iff (hne : vid ≠ vid') :
    (∃ e ∈ rules, ∃ e' ∈ rules, e.Collides e' ∧ e.treatmentInnerVid = treatment ∧
        e.filterInnerVid = vid ∧ e'.filterInnerVid = vid') ↔
      (treatment, vid) ∈ translatedVids rules ∧ (treatment, vid') ∈ translatedVids rules := by
  rw [mem_translatedVids, mem_translatedVids]
  constructor
  · intro ⟨e, he, e', he', hcollides, htreatment, hvid, hvid'⟩
    exact ⟨⟨e, he, hcollides.filters.1, hcollides.gives.1, htreatment, hvid⟩,
      ⟨e', he', hcollides.filters.2, hcollides.gives.2, hcollides.same ▸ htreatment, hvid'⟩⟩
  · intro ⟨⟨e, he, hfilters, hgives, htreatment, hvid⟩,
      ⟨e', he', hfilters', hgives', htreatment', hvid'⟩⟩
    have hcollides : e.Collides e' :=
      { filters := ⟨hfilters, hfilters'⟩
        gives := ⟨hgives, hgives'⟩
        differ := by rwa [hvid, hvid']
        same := htreatment.trans htreatment'.symm }
    exact ⟨e, he, e', he', hcollides, htreatment, hvid, hvid'⟩

/-- The VIDs that the function puts together. -/
theorem exists_group_iff :
    (∃ group ∈ detectDsCollisions 4 [] rules, group.treatmentVid = treatment ∧
        vid ∈ group.filterVids ∧ vid' ∈ group.filterVids) ↔
      treatment ∈ (sharedKeys (splitVids rules)).take 4 ∧
        vid ∈ (valuesAt (splitVids rules) treatment).eraseDups.take 8 ∧
        vid' ∈ (valuesAt (splitVids rules) treatment).eraseDups.take 8 := by
  rw [detectDsCollisions_eq]
  constructor
  · intro ⟨group, hgroup, htreatment, hvids⟩
    have ⟨head, hhead, hat⟩ := List.mem_map.mp hgroup
    subst hat
    have hkey : head = treatment := htreatment
    subst hkey
    exact ⟨hhead, hvids⟩
  · intro ⟨htreatment, hvids⟩
    exact ⟨_, List.mem_map_of_mem htreatment, rfl, hvids⟩

/-- The first VIDs are those of rules that can collide, so they are all of these. -/
theorem FirstTranslate.mem_take (h : FirstTranslate rules) (hfew : FewCollisions rules)
    (hne : vid ≠ vid') (hvid : (treatment, vid) ∈ translatedVids rules)
    (hvid' : (treatment, vid') ∈ translatedVids rules) :
    treatment ∈ (sharedKeys (splitVids rules)).take 4 ∧
      vid ∈ (valuesAt (splitVids rules) treatment).eraseDups.take 8 := by
  have hshared : treatment ∈ sharedKeys (translatedVids rules) :=
    mem_sharedKeys.mpr ⟨vid, mem_valuesAt.mpr hvid, vid', mem_valuesAt.mpr hvid', hne⟩
  have hheads : sharedKeys (translatedVids rules) ⊆ sharedKeys (splitVids rules) := by
    intro head hhead
    exact mem_sharedKeys.mpr ((mem_sharedKeys.mp hhead).mono translatedVids_subset)
  have hfirst : (sharedKeys (splitVids rules)).take 4 ⊆ sharedKeys (translatedVids rules) := by
    intro head hhead
    have hsplit := mem_sharedKeys.mp (List.mem_of_mem_take hhead)
    have ⟨a, ha, b, hb, hdiffer⟩ := hsplit.exists_take (by decide : 2 ≤ 8)
    exact mem_sharedKeys.mpr
      ⟨a, mem_valuesAt.mpr (h head hhead a ha), b, mem_valuesAt.mpr (h head hhead b hb), hdiffer⟩
  have hhead := subset_take nodup_sharedKeys hfew.groups hheads hfirst hshared
  have hvalues : (valuesAt (translatedVids rules) treatment).eraseDups ⊆
      (valuesAt (splitVids rules) treatment).eraseDups := by
    intro a ha
    rw [List.mem_eraseDups, mem_valuesAt] at ha ⊢
    exact translatedVids_subset ha
  have hfirst' : (valuesAt (splitVids rules) treatment).eraseDups.take 8 ⊆
      (valuesAt (translatedVids rules) treatment).eraseDups := by
    intro a ha
    rw [List.mem_eraseDups, mem_valuesAt]
    exact h treatment hhead a ha
  have hmem : vid ∈ (valuesAt (translatedVids rules) treatment).eraseDups := by
    rw [List.mem_eraseDups, mem_valuesAt]
    exact hvid
  exact ⟨hhead, subset_take (nodup_eraseDups _) (hfew.vids treatment hshared) hvalues hfirst' hmem⟩

theorem nodup_filterVids {maxGroups : Nat} {group : DsCollisionGroup}
    (h : group ∈ detectDsCollisions maxGroups [] rules) : group.filterVids.Nodup := by
  rw [detectDsCollisions_eq] at h
  have ⟨head, _, hat⟩ := List.mem_map.mp h
  subst hat
  exact (nodup_eraseDups _).sublist (List.take_sublist _ _)

theorem nodup_treatmentVids (maxGroups : Nat) (rules : List RxVlanOperTable) :
    ((detectDsCollisions maxGroups [] rules).map (·.treatmentVid)).Nodup := by
  rw [detectDsCollisions_eq, List.map_map]
  have hsame : (fun group : DsCollisionGroup => group.treatmentVid) ∘ groupAt (splitVids rules) =
      id := rfl
  rw [hsame, List.map_id]
  exact nodup_sharedKeys.sublist (List.take_sublist _ _)

end Collisions

/-- The function finds the colliding rules exactly if those that seem to collide, as far as there is
room for them, have the VIDs of rules that filter on an inner tag and give the frame one. -/
theorem detectDsCollisions_iff (rules : List RxVlanOperTable) (hfew : FewCollisions rules) :
    GroupsCollisions rules (detectDsCollisions 4 [] rules) ↔ SeemingTranslate rules := by
  rw [← firstTranslate_iff]
  constructor
  · intro hgroups treatment htreatment vid hvid
    have hshared := mem_sharedKeys.mp (List.mem_of_mem_take htreatment)
    have ⟨a, ha, b, hb, hdiffer⟩ := hshared.exists_take (by decide : 2 ≤ 8)
    have hother : ∃ vid' ∈ (valuesAt (splitVids rules) treatment).eraseDups.take 8, vid ≠ vid' := by
      by_cases heq : vid = a
      · exact ⟨b, hb, heq ▸ hdiffer⟩
      · exact ⟨a, ha, heq⟩
    have ⟨vid', hvid', hne⟩ := hother
    have htogether := (hgroups.together treatment vid vid' hne).mp
      (exists_group_iff.mpr ⟨htreatment, hvid, hvid'⟩)
    exact ((exists_collides_iff hne).mp htogether).1
  · intro hfirst
    refine ⟨?_, fun _ hgroup => nodup_filterVids hgroup, nodup_treatmentVids 4 rules⟩
    intro treatment vid vid' hne
    rw [exists_group_iff, exists_collides_iff hne]
    constructor
    · intro ⟨htreatment, hvid, hvid'⟩
      exact ⟨hfirst treatment htreatment vid hvid, hfirst treatment htreatment vid' hvid'⟩
    · intro ⟨hvid, hvid'⟩
      have ⟨htreatment, hmem⟩ := hfirst.mem_take hfew hne hvid hvid'
      exact ⟨htreatment, hmem, (hfirst.mem_take hfew hne.symm hvid' hvid).2⟩

/-- A rule for frames with one tag of a VID; it removes the tag and adds one of a priority. -/
def retagRule (vid : BitVec 13) (prio : BitVec 4) (treatment : BitVec 13) : RxVlanOperTable where
  filterOuterPrio := 15
  filterOuterVid := 4096
  filterOuterTpidDe := 0
  word1Padding := 0
  filterInnerPrio := 8
  filterInnerVid := vid
  filterInnerTpidDe := 0
  word2Padding := 0
  filterEtherType := 0
  treatmentTagsRemove := 1
  word3Padding := 0
  treatmentOuterPrio := 15
  treatmentOuterVid := 0
  treatmentOuterTpidDe := 0
  word4Padding := 0
  treatmentInnerPrio := prio
  treatmentInnerVid := treatment
  treatmentInnerTpidDe := 0

theorem groupsCollisions_retag :
    GroupsCollisions [retagRule 10 0 100, retagRule 20 0 100]
      (detectDsCollisions 4 [] [retagRule 10 0 100, retagRule 20 0 100]) := by
  have hsplit : splitVids [retagRule 10 0 100, retagRule 20 0 100] = [(100, 10), (100, 20)] := rfl
  have htranslated : translatedVids [retagRule 10 0 100, retagRule 20 0 100] =
      [(100, 10), (100, 20)] := rfl
  have hkeys : sharedKeys ([(100, 10), (100, 20)] : List (BitVec 13 × BitVec 13)) = [100] := rfl
  have hvalues : (valuesAt ([(100, 10), (100, 20)] : List (BitVec 13 × BitVec 13)) 100).eraseDups =
      [10, 20] := rfl
  have hfew : FewCollisions [retagRule 10 0 100, retagRule 20 0 100] := by
    constructor
    · rw [htranslated, hkeys]
      decide
    · rw [htranslated, hkeys, List.forall_mem_singleton, hvalues]
      decide
  have hfirst : FirstTranslate [retagRule 10 0 100, retagRule 20 0 100] := by
    rw [FirstTranslate, hsplit, htranslated, hkeys]
    change ∀ treatment ∈ [100], _
    rw [List.forall_mem_singleton, hvalues]
    change ∀ vid ∈ [10, 20], _
    rw [List.forall_mem_cons, List.forall_mem_singleton]
    decide
  exact (detectDsCollisions_iff _ hfew).mpr (firstTranslate_iff.mp hfirst)

/-- Rules that remove the tag and add none are taken for rules that collide. -/
theorem not_groupsCollisions_untag :
    FewCollisions [retagRule 10 15 0, retagRule 20 15 0] ∧
      ¬ GroupsCollisions [retagRule 10 15 0, retagRule 20 15 0]
        (detectDsCollisions 4 [] [retagRule 10 15 0, retagRule 20 15 0]) := by
  have htranslated : translatedVids [retagRule 10 15 0, retagRule 20 15 0] = [] := rfl
  have hkeys : sharedKeys ([] : List (BitVec 13 × BitVec 13)) = [] := rfl
  have hgroup : detectDsCollisions 4 [] [retagRule 10 15 0, retagRule 20 15 0] =
      [⟨0, [10, 20]⟩] := rfl
  have hfew : FewCollisions [retagRule 10 15 0, retagRule 20 15 0] := by
    constructor
    · rw [htranslated, hkeys]
      decide
    · rw [htranslated, hkeys]
      exact List.forall_mem_nil _
  refine ⟨hfew, fun hgroups => ?_⟩
  have htogether := (hgroups.together 0 10 20 (by decide)).mp
    (hgroup ▸ ⟨_, List.mem_cons_self, rfl, by decide, by decide⟩)
  rw [exists_collides_iff (by decide), htranslated] at htogether
  exact List.not_mem_nil htogether.1

end FalconGpon.Vlan
