/-
# The sources of a group

A group has an array of sources of which a part is used. New sources are put behind the used part
unless they are there already. Sources are removed by closing the gap; the source of that copy is
computed from the number of the source to be removed among those to be removed, where it should be
computed from its number in the array.
-/

import FalconGpon.Api.Multicast
import FalconGpon.Lib.BoundedUnion

namespace FalconGpon.Api

open FalconGpon.Lib

namespace SrcAddrList

def used (list : SrcAddrList) : List (BitVec 32) :=
  list.sAddr.take list.sAddrNum

/-- The array has its size, and the count does not exceed it. -/
structure Valid (list : SrcAddrList) : Prop where
  length_sAddr : list.sAddr.length = mccIgmpSourceAddrListCountMax
  sAddrNum_le : list.sAddrNum ≤ mccIgmpSourceAddrListCountMax

theorem Valid.length_used {list : SrcAddrList} (h : list.Valid) :
    list.used.length = list.sAddrNum := by
  rw [used, List.length_take, h.length_sAddr]
  exact Nat.min_eq_left h.sAddrNum_le

end SrcAddrList

namespace McEngine

@[simp]
theorem groupsList_setEntries_self (engine : McEngine) (s : Option SubscrIdx)
    (entries : List AddedGroup) (entriesNum : Nat) :
    (engine.setEntries s entries entriesNum).groupsList s = ⟨entries, entriesNum⟩ :=
  Function.update_self ..

theorem groupsList_setEntries_of_ne (engine : McEngine) {s other : Option SubscrIdx}
    (hother : other ≠ s) (entries : List AddedGroup) (entriesNum : Nat) :
    (engine.setEntries s entries entriesNum).groupsList other = engine.groupsList other :=
  Function.update_of_ne hother ..

/-! ## New sources -/

/-- The positions of the array that the loop over the new addresses may touch in
`mcc_subscr_group_entry_src_add`: the search covers the used part. -/
def srcListAddTouched : List (BitVec 32) → SrcAddrList → List Nat
  | [], _ => []
  | addr :: rest, old =>
      List.range old.sAddrNum ++
        if addr ∈ old.sAddr.take old.sAddrNum then srcListAddTouched rest old
        else if mccIgmpSourceAddrListCountMax ≤ old.sAddrNum then []
        else old.sAddrNum ::
          srcListAddTouched rest ⟨old.sAddr.set old.sAddrNum addr, old.sAddrNum + 1⟩

def Exceeds (group old : McGroup) : Prop :=
  mccIgmpSourceAddrListCountMax < (old.sAddrList.used ++ group.sAddrList.used).toFinset.card
deriving Decidable

/-- An entry has the union as its sources, each once, or is refused as it was. -/
def SrcAdded (group : McGroup) (old new : AddedGroup) : Prop :=
  if Exceeds group old.group then new = old
  else new = { old with group := { old.group with
      sAddrListState := group.sAddrListState, sAddrList := new.group.sAddrList } } ∧
    new.group.sAddrList.used.Nodup ∧
    ∀ addr, addr ∈ new.group.sAddrList.used ↔
      addr ∈ old.group.sAddrList.used ∨ addr ∈ group.sAddrList.used

/-- What `mcc_subscr_group_entry_src_add` should do to a list: each entry of the group gets the
sources or refuses them, and nothing else changes. -/
structure SrcAddOutcome (engine : McEngine) (s : Option SubscrIdx) (group : McGroup)
    (ret : McReturn) (after : McEngine) : Prop where
  refused : ret = .error ↔ ∃ old ∈ (engine.groupsList s).entries,
    old.group.Matches group ∧ Exceeds group old.group
  entries : List.Forall₂ (fun old new =>
      if old.group.Matches group then SrcAdded group old new else new = old)
    (engine.groupsList s).entries (after.groupsList s).entries
  others : ∀ other ≠ s, after.groupsList other = engine.groupsList other
  within : ∀ old ∈ (engine.groupsList s).entries, old.group.Matches group →
    ∀ pos ∈ srcListAddTouched group.sAddrList.used old.group.sAddrList,
      pos < mccIgmpSourceAddrListCountMax

/-- `mcc_subscr_group_entry_src_add` returns and does what it should. -/
def SrcAddRight (engine : McEngine) (s : Option SubscrIdx) (group : McGroup) : Prop :=
  ∃ ret after, engine.groupEntrySrcAdd s group = some (ret, after) ∧
    engine.SrcAddOutcome s group ret after

/-- The lock is free; an entry without room for the union is full before the first new source and
has the state already, and one with room has no source twice. -/
def SrcAddFits (engine : McEngine) (s : Option SubscrIdx) (group : McGroup) : Prop :=
  engine.locked = false ∧
    ∀ old ∈ (engine.groupsList s).entries, old.group.Matches group →
      if Exceeds group old.group then
        old.group.sAddrList.sAddrNum = mccIgmpSourceAddrListCountMax ∧
          old.group.sAddrListState = group.sAddrListState
      else old.group.sAddrList.used.Nodup

section Add

variable {old : SrcAddrList}

theorem used_append (h : old.Valid) (addr : BitVec 32)
    (hroom : old.sAddrNum < mccIgmpSourceAddrListCountMax) :
    (⟨old.sAddr.set old.sAddrNum addr, old.sAddrNum + 1⟩ : SrcAddrList).Valid ∧
      (⟨old.sAddr.set old.sAddrNum addr, old.sAddrNum + 1⟩ : SrcAddrList).used =
        old.used ++ [addr] := by
  constructor
  · exact
      { length_sAddr := (List.length_set).trans h.length_sAddr
        sAddrNum_le := hroom }
  · have hpos : old.sAddrNum < (old.sAddr.set old.sAddrNum addr).length := by
      rw [List.length_set, h.length_sAddr]
      exact hroom
    rw [SrcAddrList.used, SrcAddrList.used, List.take_succ_eq_append_getElem hpos,
      List.getElem_set_self, List.take_set_of_le (Nat.le_refl _)]

theorem srcListAdd_cons (addr : BitVec 32) (rest : List (BitVec 32)) :
    srcListAdd (addr :: rest) old =
      if addr ∈ old.used then srcListAdd rest old
      else if mccIgmpSourceAddrListCountMax ≤ old.sAddrNum then (false, old)
      else srcListAdd rest ⟨old.sAddr.set old.sAddrNum addr, old.sAddrNum + 1⟩ :=
  rfl

/-- The loop over the array is that over the used part. -/
theorem srcListAdd_spec (news : List (BitVec 32)) (h : old.Valid) : (srcListAdd news old).2.Valid ∧
      (srcListAdd news old).1 = (unionUpTo mccIgmpSourceAddrListCountMax news old.used).1 ∧
      (srcListAdd news old).2.used = (unionUpTo mccIgmpSourceAddrListCountMax news old.used).2 := by
  induction news generalizing old with
  | nil => exact ⟨h, rfl, rfl⟩
  | cons addr rest ih =>
      rw [srcListAdd_cons, unionUpTo, h.length_used]
      by_cases hmem : addr ∈ old.used
      · rw [if_pos hmem, if_pos hmem]
        exact ih h
      · rw [if_neg hmem, if_neg hmem]
        by_cases hfull : mccIgmpSourceAddrListCountMax ≤ old.sAddrNum
        · rw [if_pos hfull, if_pos hfull]
          exact ⟨h, rfl, rfl⟩
        · obtain ⟨hvalid, hused⟩ := used_append h addr (Nat.not_le.mp hfull)
          rw [if_neg hfull, if_neg hfull, ← hused]
          exact ih hvalid

theorem srcListAdd_of_full (news : List (BitVec 32))
    (hfull : mccIgmpSourceAddrListCountMax ≤ old.sAddrNum) : (srcListAdd news old).2 = old := by
  induction news with
  | nil => rfl
  | cons addr rest ih =>
      rw [srcListAdd, if_pos hfull]
      split
      · exact ih
      · rfl

theorem srcListAddTouched_lt (news : List (BitVec 32)) (h : old.Valid) :
    ∀ pos ∈ srcListAddTouched news old, pos < mccIgmpSourceAddrListCountMax := by
  induction news generalizing old with
  | nil => exact nofun
  | cons addr rest ih =>
      intro pos hpos
      rw [srcListAddTouched] at hpos
      rcases List.mem_append.mp hpos with hsearch | hrest
      · exact (List.mem_range.mp hsearch).trans_le h.sAddrNum_le
      · split_ifs at hrest with hmem hfull
        · exact ih h pos hrest
        · exact absurd hrest List.not_mem_nil
        · have hroom := Nat.not_le.mp hfull
          rcases List.mem_cons.mp hrest with hwrite | hlater
          · exact hwrite ▸ hroom
          · exact ih (used_append h addr hroom).1 pos hlater

theorem srcListAdd_eq_self_iff {news : List (BitVec 32)} (h : old.Valid)
    (hrefused : (srcListAdd news old).1 = false) :
    (srcListAdd news old).2 = old ↔ old.sAddrNum = mccIgmpSourceAddrListCountMax := by
  have ⟨_, hflag, hused⟩ := srcListAdd_spec news h
  constructor
  · intro hsame
    rw [hflag] at hrefused
    have hfull := (unionUpTo_eq_self_iff hrefused).mp (by rw [← hused, hsame])
    rw [h.length_used] at hfull
    exact le_antisymm h.sAddrNum_le hfull
  · intro hfull
    exact srcListAdd_of_full news hfull.ge

variable {group : McGroup} {added : AddedGroup}

def withSources (group : McGroup) (added : AddedGroup) (sources : SrcAddrList) : AddedGroup :=
  { added with group := { added.group with
      sAddrListState := group.sAddrListState, sAddrList := sources } }

theorem withSources_eq_self_iff {sources : SrcAddrList} :
    withSources group added sources = added ↔
      sources = added.group.sAddrList ∧ added.group.sAddrListState = group.sAddrListState := by
  constructor
  · intro h
    have hgroup := congrArg AddedGroup.group h
    exact ⟨congrArg McGroup.sAddrList hgroup, (congrArg McGroup.sAddrListState hgroup).symm⟩
  · intro h
    rw [withSources, h.1, ← h.2]

theorem srcListAdd_of_exceeds (h : added.group.sAddrList.Valid)
    (hexceeds : Exceeds group added.group) :
    (srcListAdd group.sAddrList.used added.group.sAddrList).1 = false := by
  rw [(srcListAdd_spec _ h).2.1, Bool.eq_false_iff]
  intro hflag
  have hcard := card_le_of_unionUpTo (h.length_used.trans_le h.sAddrNum_le) hflag
  exact absurd hexceeds (Nat.not_lt.mpr hcard)

theorem srcListAdd_of_not_exceeds (h : added.group.sAddrList.Valid)
    (hnodup : added.group.sAddrList.used.Nodup) (hfits : ¬Exceeds group added.group) :
    (srcListAdd group.sAddrList.used added.group.sAddrList).1 = true := by
  rw [(srcListAdd_spec _ h).2.1,
    unionUpTo_iff hnodup (h.length_used.trans_le h.sAddrNum_le)]
  exact Nat.not_lt.mp hfits

/-- One entry. -/
theorem srcAdded_iff (h : added.group.sAddrList.Valid) :
    SrcAdded group added (withSources group added
        (srcListAdd group.sAddrList.used added.group.sAddrList).2) ↔
      if Exceeds group added.group then
        added.group.sAddrList.sAddrNum = mccIgmpSourceAddrListCountMax ∧
          added.group.sAddrListState = group.sAddrListState
      else added.group.sAddrList.used.Nodup := by
  have ⟨_, hflag, hused⟩ := srcListAdd_spec group.sAddrList.used h
  rw [SrcAdded]
  by_cases hexceeds : Exceeds group added.group
  · rw [if_pos hexceeds, if_pos hexceeds, withSources_eq_self_iff,
      srcListAdd_eq_self_iff h (srcListAdd_of_exceeds h hexceeds)]
  · rw [if_neg hexceeds, if_neg hexceeds]
    constructor
    · intro hright
      have hnodup : (srcListAdd group.sAddrList.used added.group.sAddrList).2.used.Nodup :=
        hright.2.1
      rw [hused] at hnodup
      exact (nodup_unionUpTo _ _).mp hnodup
    · intro hnodup
      have hall := srcListAdd_of_not_exceeds h hnodup hexceeds
      rw [hflag] at hall
      exact
        ⟨rfl, hused ▸ (nodup_unionUpTo _ _).mpr hnodup, fun addr => hused ▸ mem_unionUpTo hall addr⟩

end Add

/-- The changed entries. -/
def addedEntry (group : McGroup) (old : AddedGroup) : AddedGroup :=
  if old.group.Matches group then
    withSources group old (srcListAdd group.sAddrList.used old.group.sAddrList).2
  else old

theorem groupEntrySrcAdd_eq {engine : McEngine} {s : Option SubscrIdx} {group : McGroup}
    (hlocked : engine.locked = false) :
    engine.groupEntrySrcAdd s group = some
      (if (engine.groupsList s).entries.any fun old => old.group.Matches group &&
          !(srcListAdd group.sAddrList.used old.group.sAddrList).1 then .error else .success,
        engine.setEntries s ((engine.groupsList s).entries.map (addedEntry group))
          (engine.groupsList s).entriesNum) := by
  rw [groupEntrySrcAdd, hlocked]
  rfl

/-- New sources are added right exactly when each entry has room for them or none at all. -/
theorem srcAddRight_iff {engine : McEngine} {s : Option SubscrIdx} (group : McGroup)
    (hvalid : ∀ old ∈ (engine.groupsList s).entries, old.group.sAddrList.Valid) :
    engine.SrcAddRight s group ↔ engine.SrcAddFits s group := by
  have hentry : ∀ old ∈ (engine.groupsList s).entries,
      ((if old.group.Matches group then SrcAdded group old (addedEntry group old)
          else addedEntry group old = old) ↔
        (old.group.Matches group →
          if Exceeds group old.group then
            old.group.sAddrList.sAddrNum = mccIgmpSourceAddrListCountMax ∧
              old.group.sAddrListState = group.sAddrListState
          else old.group.sAddrList.used.Nodup)) := by
    intro old hold
    rw [addedEntry]
    by_cases hmatch : old.group.Matches group
    · rw [if_pos hmatch, if_pos hmatch, srcAdded_iff (hvalid old hold), forall_prop_of_true hmatch]
    · rw [if_neg hmatch, if_neg hmatch]
      exact iff_of_true rfl fun h => absurd h hmatch
  constructor
  · intro hright
    have ⟨ret, after, hrun, houtcome⟩ := hright
    have hlocked : engine.locked = false := by
      rw [Bool.eq_false_iff]
      intro hlocked
      rw [groupEntrySrcAdd, if_pos hlocked] at hrun
      cases hrun
    rw [groupEntrySrcAdd_eq hlocked, Option.some_inj, Prod.mk.injEq] at hrun
    have hentries := houtcome.entries
    rw [← hrun.2, groupsList_setEntries_self, List.forall₂_map_right_iff,
      List.forall₂_same] at hentries
    exact ⟨hlocked, fun old hold => (hentry old hold).mp (hentries old hold)⟩
  · intro hfits
    have ⟨hlocked, hall⟩ := hfits
    have hrefused : ∀ old ∈ (engine.groupsList s).entries, old.group.Matches group →
        ((srcListAdd group.sAddrList.used old.group.sAddrList).1 = false ↔
          Exceeds group old.group) := by
      intro old hold hmatch
      have hcond := hall old hold hmatch
      by_cases hexceeds : Exceeds group old.group
      · exact iff_of_true (srcListAdd_of_exceeds (hvalid old hold) hexceeds) hexceeds
      · rw [if_neg hexceeds] at hcond
        have htrue := srcListAdd_of_not_exceeds (hvalid old hold) hcond hexceeds
        exact iff_of_false (by rw [htrue]; decide) hexceeds
    refine ⟨_, _, groupEntrySrcAdd_eq hlocked, ?_⟩
    exact
      { refused := by
          have hsome : ((engine.groupsList s).entries.any fun old => old.group.Matches group &&
              !(srcListAdd group.sAddrList.used old.group.sAddrList).1) = true ↔
              ∃ old ∈ (engine.groupsList s).entries,
                old.group.Matches group ∧ Exceeds group old.group := by
            rw [List.any_eq_true]
            apply exists_congr
            intro old
            apply and_congr_right
            intro hold
            rw [Bool.and_eq_true, decide_eq_true_iff, Bool.not_eq_true']
            exact and_congr_right (hrefused old hold)
          rw [← hsome]
          split
          next hany => exact iff_of_true rfl hany
          next hany => exact iff_of_false (by decide) hany
        entries := by
          rw [groupsList_setEntries_self, List.forall₂_map_right_iff, List.forall₂_same]
          exact fun old hold => (hentry old hold).mpr (hall old hold)
        others := fun other hother => groupsList_setEntries_of_ne engine hother _ _
        within := fun old hold _ => srcListAddTouched_lt _ (hvalid old hold) }

end McEngine

end FalconGpon.Api
