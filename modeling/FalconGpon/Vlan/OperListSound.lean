/-
# The rule list numbers its rules

A SET that adds or overrides a rule numbers all rules again, so it leaves a list that is in order
whatever the indices were before. A delete only takes an entry out; the indices of the others
number them exactly if it was the last one.
-/

import FalconGpon.Vlan.OperList

namespace FalconGpon.Vlan

open FalconGpon.Lib
open FalconGpon.Omci (OmciError)

@[simp]
theorem RxVlanOperTableEntry.hasKey_iff {key : BitVec 64} {e : RxVlanOperTableEntry} :
    e.hasKey key = true ↔ e.data.key = key :=
  decide_eq_true_iff

namespace OperList

variable {d : OperList} {key : BitVec 64} {entry : RxVlanOperTable} {def' : Bool}
  {vendor : OltVendorType}

/-- One rule for each key, and right counters. -/
structure WellFormed (d : OperList) : Prop where
  keys : (d.list.map (·.data.key)).Nodup
  entriesNum : d.entriesNum = d.list.length
  defEntriesNum : d.defEntriesNum = d.list.countP (·.def')

def Numbered (d : OperList) : Prop :=
  (d.list.map (·.idx)).Perm (List.range d.entriesNum)

theorem WellFormed.sound (h : d.WellFormed) (hnumbered : d.Numbered) : d.Sound where
  keys := h.keys
  entriesNum := h.entriesNum
  defEntriesNum := h.defEntriesNum
  indices := hnumbered
  readOut := by
    have hwrites : ((d.list.map fun e => (e.idx, e.data)).map Prod.fst).Perm
        (List.range d.entriesNum) := by
      rw [List.map_map]
      exact hnumbered
    obtain ⟨slots, hslots, hperm⟩ := scatter_perm hwrites
    refine ⟨slots, hslots, ?_⟩
    rw [List.map_map] at hperm
    exact hperm

/-- Removing a key changes nothing if no entry has it, and takes one entry out otherwise. -/
theorem remove_cases (d : OperList) (key : BitVec 64) :
    (∀ e ∈ d.list, e.data.key ≠ key) ∧ d.remove key = d ∨
      ∃ old ∈ d.list, old.data.key = key ∧ d.list.Perm (old :: (d.remove key).list) ∧
        (d.remove key).entriesNum = d.entriesNum - 1 ∧ (d.remove key).defEntriesNum =
          if old.def' then d.defEntriesNum - 1 else d.defEntriesNum := by
  rw [remove]
  cases hfind : d.list.find? (·.hasKey key) with
  | none =>
      refine .inl ⟨fun e he hkey => ?_, rfl⟩
      exact List.find?_eq_none.mp hfind e he (RxVlanOperTableEntry.hasKey_iff.mpr hkey)
  | some old =>
      have hmem := List.mem_of_find?_eq_some hfind
      have hold := List.find?_some hfind
      obtain ⟨a, before, after, hbefore, ha, hlist, herase⟩ :=
        List.exists_of_eraseP hmem hold
      have hfirst : d.list.find? (·.hasKey key) = some a := by
        rw [hlist, List.find?_append, List.find?_eq_none.mpr hbefore, Option.none_or,
          List.find?_cons_of_pos ha]
      have hsame : old = a := Option.some.inj (hfind.symm.trans hfirst)
      refine .inr ⟨old, hmem, RxVlanOperTableEntry.hasKey_iff.mp hold, ?_, rfl, rfl⟩
      dsimp only
      rw [herase, hlist, hsame]
      exact List.perm_middle

/-- The rest of a list out of which a counted entry was taken. -/
theorem WellFormed.of_perm {smaller : OperList} {old : RxVlanOperTableEntry} (h : d.WellFormed)
    (hperm : d.list.Perm (old :: smaller.list)) (hnum : smaller.entriesNum = d.entriesNum - 1)
    (hdef : smaller.defEntriesNum =
      if old.def' then d.defEntriesNum - 1 else d.defEntriesNum) :
    smaller.WellFormed ∧ ∀ e ∈ smaller.list, e.data.key ≠ old.data.key := by
  have hkeys := (hperm.map (·.data.key)).nodup_iff.mp h.keys
  obtain ⟨hfresh, hrest⟩ := List.nodup_cons.mp hkeys
  have hlength := hperm.length_eq
  have hcount := hperm.countP_eq (·.def')
  rw [List.length_cons] at hlength
  rw [List.countP_cons] at hcount
  refine ⟨⟨hrest, ?_, ?_⟩, fun e he hkey => hfresh (List.mem_map.mpr ⟨e, he, hkey⟩)⟩
  · rw [hnum, h.entriesNum, hlength]
    rfl
  · rw [hdef, h.defEntriesNum, hcount]
    split <;> rfl

theorem WellFormed.remove (h : d.WellFormed) (key : BitVec 64) :
    (d.remove key).WellFormed ∧ ∀ e ∈ (d.remove key).list, e.data.key ≠ key := by
  rcases d.remove_cases key with ⟨hnone, hsame⟩ | ⟨old, -, hkey, hperm, hnum, hdef⟩
  · rw [hsame]
    exact ⟨h, hnone⟩
  · rw [← hkey] at hperm hnum hdef ⊢
    exact h.of_perm hperm hnum hdef

theorem insert_perm (d : OperList) (tail : Bool) (entry : RxVlanOperTable) (def' : Bool) :
    (d.insert tail entry def').list.Perm (⟨entry, 0, def'⟩ :: d.list) := by
  rw [insert]
  cases tail with
  | false => exact List.Perm.refl _
  | true => exact List.perm_append_comm

theorem WellFormed.insert (h : d.WellFormed) (tail : Bool)
    (hnew : ∀ e ∈ d.list, e.data.key ≠ entry.key) : (d.insert tail entry def').WellFormed := by
  have hperm := d.insert_perm tail entry def'
  refine ⟨?_, ?_, ?_⟩
  · rw [(hperm.map (·.data.key)).nodup_iff, List.map_cons, List.nodup_cons]
    refine ⟨fun hmem => ?_, h.keys⟩
    obtain ⟨e, he, hkey⟩ := List.mem_map.mp hmem
    exact hnew e he hkey
  · rw [hperm.length_eq, List.length_cons, ← h.entriesNum]
    rfl
  · rw [hperm.countP_eq, List.countP_cons, ← h.defEntriesNum]
    cases def' <;> rfl

theorem WellFormed.of_map_eq {other : OperList} (h : d.WellFormed)
    (hkeys : other.list.map (·.data.key) = d.list.map (·.data.key))
    (hdef : other.list.map (·.def') = d.list.map (·.def'))
    (hnum : other.entriesNum = d.entriesNum) (hdefNum : other.defEntriesNum = d.defEntriesNum) :
    other.WellFormed := by
  have hlength := congrArg List.length hkeys
  rw [List.length_map, List.length_map] at hlength
  have hcount := congrArg (List.countP id) hdef
  rw [List.countP_map, List.countP_map] at hcount
  refine ⟨hkeys ▸ h.keys, ?_, ?_⟩
  · rw [hnum, h.entriesNum, hlength]
  · rw [hdefNum, h.defEntriesNum]
    exact hcount.symm

theorem map_overrideFirst {β : Type*} (g : RxVlanOperTableEntry → β)
    (hg : ∀ e, e.data.key = entry.key → g { e with data := entry } = g e)
    (list : List RxVlanOperTableEntry) : (overrideFirst entry list).map g = list.map g := by
  induction list with
  | nil => rfl
  | cons e rest ih =>
      rw [overrideFirst]
      by_cases hkey : e.hasKey entry.key
      · rw [if_pos hkey, List.map_cons, List.map_cons,
          hg e (RxVlanOperTableEntry.hasKey_iff.mp hkey)]
      · rw [if_neg hkey, List.map_cons, List.map_cons, ih]

/-- The `sort_array` has the rules of the list. -/
theorem sortArray_perm (vendor : OltVendorType) (d : OperList) :
    (d.sortArray vendor).Perm (d.list.map (·.data)) := by
  have hsorted : (((d.list.filter (!·.def')).map (·.data)).mergeSort
      (fun e e' => e.key ≤ e'.key) ++ (d.list.filter (·.def')).map (·.data)).Perm
      (d.list.map (·.data)) := by
    have hparts := (List.filter_append_perm (!·.def') d.list).map (·.data)
    rw [List.map_append] at hparts
    simp only [Bool.not_not] at hparts
    exact ((List.mergeSort_perm _ _).append_right _).trans hparts
  cases vendor with
  | hwtc => exact List.Perm.refl _
  | alcl => exact hsorted
  | generic => exact hsorted

/-- Sorting by key and taking a rule out can be exchanged. -/
theorem mergeSort_erase {rules : List RxVlanOperTable} (hkeys : (rules.map (·.key)).Nodup)
    (e : RxVlanOperTable) :
    (rules.erase e).mergeSort (fun e e' => e.key ≤ e'.key) =
      (rules.mergeSort fun e e' => e.key ≤ e'.key).erase e := by
  have htrans : ∀ a b c : RxVlanOperTable, decide (a.key ≤ b.key) = true →
      decide (b.key ≤ c.key) = true → decide (a.key ≤ c.key) = true :=
    fun a b c hab hbc => decide_eq_true (BitVec.le_trans (of_decide_eq_true hab)
      (of_decide_eq_true hbc))
  have htotal : ∀ a b : RxVlanOperTable,
      (decide (a.key ≤ b.key) || decide (b.key ≤ a.key)) = true := by
    intro a b
    rw [Bool.or_eq_true, decide_eq_true_iff, decide_eq_true_iff]
    exact BitVec.le_total a.key b.key
  have hsorted : ∀ l : List RxVlanOperTable,
      (l.mergeSort fun e e' => e.key ≤ e'.key).Pairwise fun e e' => e.key ≤ e'.key :=
    fun l => (List.pairwise_mergeSort htrans htotal l).imp fun hab => of_decide_eq_true hab
  have hperm : ((rules.erase e).mergeSort fun e e' => e.key ≤ e'.key).Perm
      ((rules.mergeSort fun e e' => e.key ≤ e'.key).erase e) :=
    (List.mergeSort_perm _ _).trans ((List.mergeSort_perm _ _).erase e).symm
  apply List.Perm.eq_of_pairwise _ (hsorted _) ((hsorted _).sublist List.erase_sublist) hperm
  intro a b ha hb hab hba
  have hmem : ∀ {c}, c ∈ (rules.erase e).mergeSort (fun e e' => e.key ≤ e'.key) → c ∈ rules :=
    fun hc => List.mem_of_mem_erase (List.mem_mergeSort.mp hc)
  exact List.inj_on_of_nodup_map hkeys (hmem ha) (hmem (hperm.mem_iff.mpr hb))
    (BitVec.le_antisymm hab hba)

/-- Removing a rule takes it out of the `sort_array`. -/
theorem WellFormed.sortArray_remove (h : d.WellFormed) {old : RxVlanOperTableEntry}
    (hfind : d.list.find? (·.hasKey key) = some old) (vendor : OltVendorType) :
    (d.remove key).sortArray vendor = (d.sortArray vendor).erase old.data := by
  have hkey := RxVlanOperTableEntry.hasKey_iff.mp (List.find?_some hfind)
  obtain ⟨a, before, after, hbefore, ha, hlist, herase⟩ :=
    List.exists_of_eraseP (List.mem_of_find?_eq_some hfind) (List.find?_some hfind)
  have hsame : old = a := by
    rw [hlist, List.find?_append, List.find?_eq_none.mpr hbefore, Option.none_or,
      List.find?_cons_of_pos ha] at hfind
    exact (Option.some.inj hfind).symm
  have hremove : (d.remove key).list = before ++ after := by
    rw [OperList.remove, hfind]
    exact herase
  have hother : ∀ (p : RxVlanOperTableEntry → Bool),
      old.data ∉ (before.filter p).map (·.data) := by
    intro p hmem
    obtain ⟨e, he, hdata⟩ := List.mem_map.mp hmem
    apply hbefore e (List.mem_of_mem_filter he)
    rw [RxVlanOperTableEntry.hasKey_iff, hdata, hkey]
  have hsplit : ∀ (p : RxVlanOperTableEntry → Bool), p old = true →
      ((d.remove key).list.filter p).map (·.data) =
        ((d.list.filter p).map (·.data)).erase old.data := by
    intro p hp
    rw [hremove, hlist, ← hsame, List.filter_append, List.filter_append,
      List.filter_cons_of_pos hp, List.map_append, List.map_append, List.map_cons,
      List.erase_append_right _ (hother p), List.erase_cons_head]
  have hkept : ∀ (p : RxVlanOperTableEntry → Bool), ¬p old = true →
      ((d.remove key).list.filter p).map (·.data) = (d.list.filter p).map (·.data) := by
    intro p hp
    rw [hremove, hlist, ← hsame, List.filter_append, List.filter_append,
      List.filter_cons_of_neg hp]
  have hkeys : ∀ (p : RxVlanOperTableEntry → Bool),
      (((d.list.filter p).map (·.data)).map (·.key)).Nodup := by
    intro p
    rw [List.map_map]
    exact h.keys.sublist ((List.filter_sublist).map _)
  have hboth : (((d.remove key).list.filter (!·.def')).map (·.data)).mergeSort
        (fun e e' => e.key ≤ e'.key) ++ ((d.remove key).list.filter (·.def')).map (·.data) =
      ((((d.list.filter (!·.def')).map (·.data)).mergeSort fun e e' => e.key ≤ e'.key) ++
        (d.list.filter (·.def')).map (·.data)).erase old.data := by
    by_cases hdef : old.def' = true
    · have hnotin : old.data ∉ ((d.list.filter (!·.def')).map (·.data)).mergeSort
          (fun e e' => e.key ≤ e'.key) := by
        rw [List.mem_mergeSort, List.mem_map]
        intro hmem
        obtain ⟨e, he, hdata⟩ := hmem
        have hsameEntry : e = old := List.inj_on_of_nodup_map h.keys (List.mem_of_mem_filter he)
          (List.mem_of_find?_eq_some hfind) (congrArg RxVlanOperTable.key hdata)
        have hnotDef := List.of_mem_filter he
        rw [hsameEntry, hdef] at hnotDef
        cases hnotDef
      rw [hkept (!·.def') (by simp [hdef]), hsplit (·.def') hdef,
        List.erase_append_right _ hnotin]
    · rw [hsplit (!·.def') (by simp [hdef]), hkept (·.def') hdef, mergeSort_erase (hkeys _),
        List.erase_append_left]
      rw [List.mem_mergeSort, List.mem_map]
      exact ⟨old, List.mem_filter.mpr ⟨List.mem_of_find?_eq_some hfind, by simp [hdef]⟩, rfl⟩
  cases vendor with
  | hwtc =>
      have hall := hsplit (fun _ => true) rfl
      rwa [List.filter_true, List.filter_true] at hall
  | alcl => exact hboth
  | generic => exact hboth

/-- Every entry is found in the `sort_array`. -/
theorem renumber_eq {sorted : List RxVlanOperTable} {list : List RxVlanOperTableEntry}
    (h : ∀ e ∈ list, e.data.key ∈ sorted.map (·.key)) :
    renumber sorted list =
      (.success, list.map fun e =>
        { e with idx := (sorted.map (·.key)).idxOf e.data.key }) := by
  induction list with
  | nil => rfl
  | cons e rest ih =>
      rw [renumber, if_pos (h e List.mem_cons_self),
        ih fun e' he' => h e' (List.mem_cons_of_mem _ he')]
      rfl

/-- Setting the indices from the `sort_array` numbers a list of different keys. -/
theorem WellFormed.renumber (h : d.WellFormed) (vendor : OltVendorType) :
    (OperList.renumber (d.sortArray vendor) d.list).1 = .success ∧
      { d with list := (OperList.renumber (d.sortArray vendor) d.list).2 }.WellFormed ∧
      { d with list := (OperList.renumber (d.sortArray vendor) d.list).2 }.Numbered := by
  have hperm : (d.list.map (·.data.key)).Perm ((d.sortArray vendor).map (·.key)) := by
    have hkeys := ((d.sortArray_perm vendor).map (·.key)).symm
    rwa [List.map_map] at hkeys
  have hrenumber : OperList.renumber (d.sortArray vendor) d.list =
      (.success, d.list.map fun e =>
        { e with idx := ((d.sortArray vendor).map (·.key)).idxOf e.data.key }) :=
    renumber_eq fun e he => hperm.mem_iff.mp (List.mem_map.mpr ⟨e, he, rfl⟩)
  rw [hrenumber]
  refine ⟨rfl, h.of_map_eq ?_ ?_ rfl rfl, ?_⟩
  · rw [List.map_map]
    rfl
  · rw [List.map_map]
    rfl
  · have hidx := map_idxOf_perm hperm (hperm.nodup_iff.mp h.keys)
    rw [List.length_map, ← h.entriesNum] at hidx
    rw [Numbered, List.map_map]
    rw [List.map_map] at hidx
    exact hidx

/-- Numbering the entries as they stand in the list. -/
theorem WellFormed.mapIdx (h : d.WellFormed) :
    WellFormed { d with list := d.list.mapIdx fun i e => { e with idx := i } } ∧
      Numbered { d with list := d.list.mapIdx fun i e => { e with idx := i } } := by
  have hsame : ∀ {β : Type} (g : RxVlanOperTableEntry → β),
      (∀ e i, g { e with idx := i } = g e) →
      (d.list.mapIdx fun i e => { e with idx := i }).map g = d.list.map g := by
    intro β g hg
    apply List.ext_getElem
    · rw [List.length_map, List.length_mapIdx, List.length_map]
    · intro i hi hi'
      rw [List.getElem_map, List.getElem_mapIdx, List.getElem_map]
      exact hg _ i
  refine ⟨h.of_map_eq (hsame _ fun _ _ => rfl) (hsame _ fun _ _ => rfl) rfl rfl, ?_⟩
  have hidx : (d.list.mapIdx fun i e => { e with idx := i }).map (·.idx) =
      List.range d.entriesNum := by
    rw [h.entriesNum]
    apply List.ext_getElem
    · rw [List.length_map, List.length_mapIdx, List.length_range]
    · intro i hi hi'
      rw [List.getElem_map, List.getElem_mapIdx, List.getElem_range]
  rw [Numbered, hidx]

/-- A set entry leaves the list in order, whatever the indices were. -/
theorem WellFormed.set (h : d.WellFormed) (vendor : OltVendorType) (entry : RxVlanOperTable)
    (def' : Bool) :
    (d.set vendor entry def').1 = .success ∧ (d.set vendor entry def').2.WellFormed ∧
      (d.set vendor entry def').2.Numbered := by
  have hsorted : ∀ vendor : OltVendorType,
      (if d.list.any (·.hasKey entry.key) then
          { d with list := overrideFirst entry d.list }
        else d.insert true entry def').WellFormed := by
    intro vendor
    by_cases hany : d.list.any (·.hasKey entry.key) = true
    · rw [if_pos hany]
      exact h.of_map_eq (map_overrideFirst _ (fun e hkey => hkey.symm) _)
        (map_overrideFirst _ (fun _ _ => rfl) _) rfl rfl
    · rw [if_neg hany]
      refine h.insert true fun e he hkey => hany ?_
      exact List.any_eq_true.mpr ⟨e, he, RxVlanOperTableEntry.hasKey_iff.mpr hkey⟩
  cases vendor with
  | hwtc =>
      have hremove := h.remove entry.key
      exact ⟨rfl, (hremove.1.insert def' hremove.2).mapIdx⟩
  | alcl => exact (hsorted .alcl).renumber .alcl
  | generic => exact (hsorted .generic).renumber .generic

/-- A delete keeps the keys and the counters, and keeps the numbers exactly if it takes the last
entry. -/
theorem WellFormed.delete (h : d.WellFormed) (hnumbered : d.Numbered) (key : BitVec 64) :
    (d.remove key).WellFormed ∧ ((d.remove key).Numbered ↔ ∀ old ∈ d.list, old.data.key = key →
        old.idx + 1 = d.entriesNum) := by
  refine ⟨(h.remove key).1, ?_⟩
  rcases d.remove_cases key with ⟨hnone, hsame⟩ | ⟨old, hmem, hkey, hperm, hnum, -⟩
  · rw [hsame]
    exact ⟨fun _ e he hkey => absurd hkey (hnone e he), fun _ => hnumbered⟩
  · have hrest : (d.remove key).Numbered ↔ old.idx + 1 = d.entriesNum := by
      have hidx : (old.idx :: (d.remove key).list.map (·.idx)).Perm
          (List.range d.entriesNum) := by
        have hall := (hperm.map (·.idx)).symm
        exact hall.trans hnumbered
      rw [Numbered, hnum]
      exact perm_range_iff_of_cons hidx
    rw [hrest]
    constructor
    · intro hlast e he hkey'
      have hsame : e = old :=
        List.inj_on_of_nodup_map h.keys he hmem (hkey'.trans hkey.symm)
      rw [hsame]
      exact hlast
    · intro hlast
      exact hlast old hmem hkey

def InOrder (d : OperList) : Prop :=
  d.WellFormed ∧ d.Numbered

theorem sound_iff_inOrder : d.Sound ↔ d.InOrder :=
  ⟨fun h => ⟨⟨h.keys, h.entriesNum, h.defEntriesNum⟩, h.indices⟩, fun h => h.1.sound h.2⟩

theorem inOrder_init : init.InOrder :=
  ⟨⟨List.nodup_nil, rfl, rfl⟩, List.Perm.refl _⟩

theorem InOrder.entrySet (h : d.InOrder) (vendor : OltVendorType) (def' : Bool)
    (hset : entry.isDelete = false) (drv : Bool) : (d.entrySet vendor entry def' drv).2.InOrder := by
  rw [OperList.entrySet, hset]
  exact (h.1.set vendor entry def').2

/-- A call leaves the list in order exactly if it does not delete a rule that is not the last
one. -/
theorem InOrder.entrySet_iff (h : d.InOrder) (drv : Bool) :
    (d.entrySet vendor entry def' drv).2.InOrder ↔
      (entry.isDelete = true → ∀ old ∈ d.list, old.data.key = entry.key →
        old.idx + 1 = d.entriesNum) := by
  cases hdelete : entry.isDelete with
  | false => exact ⟨fun _ hset => (Bool.false_ne_true hset).elim, fun _ => h.entrySet vendor def' hdelete drv⟩
  | true =>
      have hkept := h.1.delete h.2 entry.key
      rw [OperList.entrySet, hdelete, if_pos rfl, InOrder]
      by_cases hany : d.list.any (·.hasKey entry.key) = true
      · rw [if_pos hany]
        exact ⟨fun hafter _ => hkept.2.mp hafter.2, fun hlast => ⟨hkept.1, hkept.2.mpr (hlast rfl)⟩⟩
      · rw [if_neg hany]
        refine ⟨fun _ _ old hmem hkey => absurd ?_ hany, fun _ => h⟩
        exact List.any_eq_true.mpr ⟨old, hmem, RxVlanOperTableEntry.hasKey_iff.mpr hkey⟩

theorem rxVlanDef_isDelete : ∀ entry ∈ rxVlanDef, entry.isDelete = false := by
  decide

theorem InOrder.createDefaults (h : d.InOrder) {entries : List RxVlanOperTable}
    (hentries : ∀ entry ∈ entries, entry.isDelete = false) (drv : List Bool) :
    (d.createDefaults vendor entries drv).2.InOrder := by
  induction entries generalizing d drv with
  | nil => exact h
  | cons entry rest ih =>
      have hcreated := h.entrySet vendor true
        (hentries entry List.mem_cons_self) (drv.headD true)
      rw [OperList.createDefaults]
      split
      · exact ih hcreated (fun e he => hentries e (List.mem_cons_of_mem _ he)) drv.tail
      · exact hcreated

theorem InOrder.prepare (h : d.InOrder) (vendor : OltVendorType) (update : MeUpdate) :
    (d.prepare vendor update).2.InOrder := by
  have hcreated : (if d.entriesNum = 0 then
      d.createDefaults vendor rxVlanDef update.defaults else (.success, d)).2.InOrder := by
    split
    · exact h.createDefaults rxVlanDef_isDelete update.defaults
    · exact h
  rw [OperList.prepare]
  generalize (if d.entriesNum = 0 then
      d.createDefaults vendor rxVlanDef update.defaults else (.success, d)) = created at hcreated ⊢
  split
  · exact h
  · dsimp only
    split
    · exact hcreated
    · exact hcreated

/-- An update leaves the list in order exactly if its delete takes the last rule. -/
theorem InOrder.meUpdate_iff (h : d.InOrder) (update : MeUpdate) :
    (d.meUpdate vendor update).2.InOrder ↔ DeletesLast vendor d update := by
  have hprepared := h.prepare vendor update
  rw [OperList.meUpdate]
  cases htable : update.table with
  | none =>
      refine ⟨fun _ entry drv hsome => ?_, fun _ => hprepared⟩
      rw [htable] at hsome
      cases hsome
  | some table =>
      obtain ⟨entry, drv⟩ := table
      dsimp only
      by_cases hready : (d.prepare vendor update).1 = .success
      · rw [if_pos hready, hprepared.entrySet_iff]
        constructor
        · intro hlast other drv' hother _ hdelete
          rw [htable, Option.some_inj, Prod.mk.injEq] at hother
          rw [← hother.1] at hdelete ⊢
          exact hlast hdelete
        · intro hlast
          exact hlast entry drv htable hready
      · rw [if_neg hready]
        exact ⟨fun _ _ _ _ hsuccess => absurd hsuccess hready, fun _ => hprepared⟩

end OperList

/-- Over all sequences of updates, whatever driver calls fail, the list of rules is sound after
every update exactly if every delete takes the rule with the last index. -/
theorem operList_sound_iff (vendor : OltVendorType) (updates : List MeUpdate) :
    Along (operListStep vendor) (fun _ _ after => after.Sound) OperList.init updates ↔
      Along (operListStep vendor) (fun before update _ => DeletesLast vendor before update)
        OperList.init updates := by
  refine along_iff_guard ?_ OperList.inOrder_init updates
  intro before update after hbefore hstep
  have hafter : (before.meUpdate vendor update).2 = after := Option.some.inj hstep
  rw [OperList.sound_iff_inOrder, ← hafter]
  exact ⟨hbefore.meUpdate_iff update, (hbefore.meUpdate_iff update).mpr⟩

def setSingleTagged (entry : RxVlanOperTable) : MeUpdate :=
  ⟨none, [], none, some (entry, true)⟩

/-- After a rule at the head of the list is deleted, the indices of the default rules no longer
fit in the table. -/
theorem not_operList_sound :
    ¬∀ updates : List MeUpdate,
      Along (operListStep .hwtc) (fun _ _ after => after.Sound) OperList.init updates := by
  intro hsound
  have hrun := hsound
    [setSingleTagged ⟨15, 4096, 0, 0, 8, 100, 0, 0, 0, 0, 0, 15, 0, 0, 0, 15, 0, 0⟩,
      setSingleTagged ⟨15, 4096, 0, 0, 8, 100, 0, 0, 0, 3, 0x3ff, 15, 0x1fff, 7, 0xfff, 15,
        0x1fff, 7⟩]
  have hindices := hrun.2.1.indices
  have hmem : 3 ∈ List.range 3 := hindices.mem_iff.mp (by decide)
  exact absurd hmem (by decide)

end FalconGpon.Vlan
