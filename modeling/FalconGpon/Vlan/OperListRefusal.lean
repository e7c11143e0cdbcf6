/-
# Refused SETs of a rule

A SET of a rule changes the list first; then it allocates the `sort_array` and programs the
hardware. Nothing is taken back when one of these fails, so a refused SET has kept the list only
if it was refused before the first change, or if it had nothing to change.
-/

import FalconGpon.Vlan.OperListSound

namespace FalconGpon.Vlan

open FalconGpon.Lib
open FalconGpon.Omci (OmciError)

/-- What the system answers to a call of `rx_vlan_oper_table_entry_set`. -/
structure SetOutcomes where
  /-- Whether there is memory for a new entry. -/
  entryMem : Bool
  /-- Whether there is memory for the `sort_array`. -/
  sortMem : Bool
  /-- Whether they succeed: the driver calls of which each ends the programming if it fails. -/
  drv : List Bool

/-- Nothing fails. -/
def SetOutcomes.granted : SetOutcomes :=
  ⟨true, true, []⟩

/-- The driver calls are made until one fails. -/
def programmed : List Bool → OmciError
  | [] => .success
  | ok :: rest => if ok then programmed rest else .drv

theorem programmed_eq (drv : List Bool) :
    programmed drv = if drv.all id then .success else .drv := by
  induction drv with
  | nil => rfl
  | cons ok rest ih => cases ok with
      | false => rfl
      | true => exact ih

namespace OperList

/-- Put a rule into the list; for the first vendor the indices follow at once. -/
def add (vendor : OltVendorType) (d : OperList) (entry : RxVlanOperTable) (def' entryMem : Bool) :
    OmciError × OperList :=
  match vendor with
  | .hwtc =>
      let removed := d.remove entry.key
      if !entryMem then (.memory, removed)
      else
        let added := removed.insert def' entry def'
        (.success, { added with list := added.list.mapIdx fun i e => { e with idx := i } })
  | .alcl | .generic =>
      if d.list.any (·.hasKey entry.key) then
        (.success, { d with list := overrideFirst entry d.list })
      else if !entryMem then (.memory, d)
      else (.success, d.insert true entry def')

/-- The indices that follow the `sort_array`. -/
def number (vendor : OltVendorType) (d : OperList) : OmciError × OperList :=
  match vendor with
  | .hwtc => (.success, d)
  | .alcl | .generic =>
      let renumbered := renumber (d.sortArray vendor) d.list
      (renumbered.1, { d with list := renumbered.2 })

/-- `rx_vlan_oper_table_entry_set`, where memory may run out. -/
def entrySetWith (vendor : OltVendorType) (d : OperList) (entry : RxVlanOperTable) (def' : Bool)
    (out : SetOutcomes) : OmciError × OperList :=
  if entry.isDelete then
    if d.list.any (·.hasKey entry.key) then (programmed out.drv, d.remove entry.key)
    else (.invalidVal, d)
  else
    let added := d.add vendor entry def' out.entryMem
    if added.1 ≠ .success then added
    else if !out.sortMem then (.memory, added.2)
    else
      let numbered := added.2.number vendor
      (if numbered.1 = .success then programmed out.drv else numbered.1, numbered.2)

/-- With memory it is the one of `OperList`. -/
theorem entrySetWith_of_granted (vendor : OltVendorType) (d : OperList) (entry : RxVlanOperTable)
    (def' : Bool) (drv : List Bool) :
    d.entrySetWith vendor entry def' ⟨true, true, drv⟩ =
      d.entrySet vendor entry def' (drv.all id) := by
  have hdrv : ∀ {err : OmciError},
      (if err = .success then (if drv.all id then OmciError.success else .drv) else err) =
        if err = .success ∧ !drv.all id then .drv else err := by
    intro err
    cases err <;> cases drv.all id <;> rfl
  rw [entrySetWith, entrySet, programmed_eq]
  split
  · rfl
  · have hsorted : ∀ vendor, vendor ≠ .hwtc → d.add vendor entry def' true =
        (.success, if d.list.any (·.hasKey entry.key)
          then { d with list := overrideFirst entry d.list } else d.insert true entry def') := by
      intro vendor hvendor
      cases vendor with
      | hwtc => exact absurd rfl hvendor
      | alcl | generic =>
          rw [add]
          split <;> rfl
    cases vendor with
    | hwtc => exact congrArg (·, _) hdrv
    | alcl =>
        rw [hsorted .alcl (fun h => by cases h)]
        exact congrArg (·, _) hdrv
    | generic =>
        rw [hsorted .generic (fun h => by cases h)]
        exact congrArg (·, _) hdrv

/-- The rules with their marks, in order. -/
def rules (d : OperList) : List (RxVlanOperTable × Bool) :=
  d.list.map fun e => (e.data, e.def')

/-- Create the default rules until one fails. -/
def createDefaultsWith (vendor : OltVendorType) (d : OperList) :
    List RxVlanOperTable → List SetOutcomes → OmciError × OperList
  | [], _ => (.success, d)
  | entry :: rest, outs =>
      let created := d.entrySetWith vendor entry true (outs.headD .granted)
      if created.1 = .success then createDefaultsWith vendor created.2 rest outs.tail else created

end OperList

/-- A call of `me_update`, with what the system answers. -/
structure ListUpdate where
  /-- Whether other attributes are updated, and whether that succeeds. -/
  cfgUpdate : Option Bool
  /-- For each of the default rules. -/
  defaults : List SetOutcomes
  /-- Whether there are multicast entries, and whether updating them succeeds. -/
  mcUpdate : Option Bool
  table : Option (RxVlanOperTable × SetOutcomes)

namespace OperList

def prepareWith (vendor : OltVendorType) (d : OperList) (update : ListUpdate) :
    OmciError × OperList :=
  if update.cfgUpdate = some false then (.drv, d)
  else
    let created :=
      if d.entriesNum = 0 then d.createDefaultsWith vendor rxVlanDef update.defaults
      else (.success, d)
    if created.1 = .success ∧ update.mcUpdate = some false then (.drv, created.2) else created

/-- `me_update`. -/
def meUpdateWith (vendor : OltVendorType) (d : OperList) (update : ListUpdate) :
    OmciError × OperList :=
  let prepared := d.prepareWith vendor update
  match update.table with
  | none => prepared
  | some (entry, out) =>
      if prepared.1 = .success then prepared.2.entrySetWith vendor entry false out else prepared

def runUpdates (vendor : OltVendorType) (updates : List ListUpdate) : OperList :=
  updates.foldl (fun d update => (d.meUpdateWith vendor update).2) init

/-- A SET of a rule that is refused leaves the rules and the counts as they were. -/
def Atomic (vendor : OltVendorType) (d : OperList) (update : ListUpdate) : Prop :=
  update.table.isSome → (d.meUpdateWith vendor update).1 ≠ .success →
    (d.meUpdateWith vendor update).2.rules = d.rules ∧
    (d.meUpdateWith vendor update).2.entriesNum = d.entriesNum ∧
    (d.meUpdateWith vendor update).2.defEntriesNum = d.defEntriesNum

/-! ## When it does -/

def keys (d : OperList) : List (BitVec 64) :=
  d.list.map (·.data.key)

/-- Nothing that the SET of a rule asks for is refused; a list with these keys has the rule that a
delete names. -/
def Accepted (vendor : OltVendorType) (keys : List (BitVec 64)) (entry : RxVlanOperTable)
    (out : SetOutcomes) : Prop :=
  out.drv.all id = true ∧
    if entry.isDelete then entry.key ∈ keys
    else out.sortMem = true ∧ (out.entryMem = true ∨ vendor ≠ .hwtc ∧ entry.key ∈ keys)

/-- The SET of a rule changes nothing before it is refused: the delete finds no rule, there is no
memory for a new rule whose key is new, or the list has the rule, for the first vendor in front. -/
def Untouched (vendor : OltVendorType) (d : OperList) (entry : RxVlanOperTable)
    (out : SetOutcomes) : Prop :=
  if entry.isDelete then entry.key ∉ d.keys
  else
    match vendor with
    | .hwtc =>
        if out.entryMem then d.rules.head? = some (entry, false) else entry.key ∉ d.keys
    | .alcl | .generic =>
        out.entryMem = false ∧ entry.key ∉ d.keys ∨ entry ∈ d.list.map (·.data)

/-- The condition on a SET: default rules are created only if then nothing is refused. -/
def Safe (vendor : OltVendorType) (d : OperList) (update : ListUpdate) : Prop :=
  ∀ entry out, update.table = some (entry, out) → update.cfgUpdate = some false ∨
    if d.list = [] then
      (update.defaults.headD .granted).entryMem = false ∨
        (∀ i < 3, (update.defaults.getD i .granted).entryMem = true ∧
          (update.defaults.getD i .granted).sortMem = true ∧
          (update.defaults.getD i .granted).drv.all id = true) ∧
        update.mcUpdate ≠ some false ∧ Accepted vendor (rxVlanDef.map (·.key)) entry out
    else
      update.mcUpdate = some false ∨ Accepted vendor d.keys entry out ∨
        d.Untouched vendor entry out

/-! ## Setting a rule -/

variable {vendor : OltVendorType} {d : OperList} {entry : RxVlanOperTable} {def' : Bool}
  {out : SetOutcomes}

theorem any_hasKey_iff {key : BitVec 64} : d.list.any (·.hasKey key) = true ↔ key ∈ d.keys := by
  simp only [List.any_eq_true, RxVlanOperTableEntry.hasKey_iff, keys, List.mem_map]

theorem keys_eq_map_rules (d : OperList) : d.keys = d.rules.map fun rule => rule.1.key := by
  rw [keys, rules, List.map_map]
  rfl

theorem length_rules (d : OperList) : d.rules.length = d.list.length :=
  List.length_map _

theorem map_renumber {β : Type*} (g : RxVlanOperTableEntry → β)
    (hg : ∀ e i, g { e with idx := i } = g e) (sorted : List RxVlanOperTable)
    (list : List RxVlanOperTableEntry) : (renumber sorted list).2.map g = list.map g := by
  induction list with
  | nil => rfl
  | cons e rest ih =>
      rw [renumber]
      split
      · rw [List.map_cons, List.map_cons, ih, hg]
      · rfl

theorem WellFormed.counts {other : OperList} (h : d.WellFormed) (hother : other.WellFormed)
    (hrules : other.rules = d.rules) :
    other.entriesNum = d.entriesNum ∧ other.defEntriesNum = d.defEntriesNum := by
  have hlength := congrArg List.length hrules
  have hcount := congrArg (List.countP Prod.snd) hrules
  rw [length_rules, length_rules] at hlength
  rw [rules, rules, List.countP_map, List.countP_map] at hcount
  rw [hother.entriesNum, h.entriesNum, hother.defEntriesNum, h.defEntriesNum]
  exact ⟨hlength, hcount⟩

theorem WellFormed.number (h : d.WellFormed) (vendor : OltVendorType) :
    (d.number vendor).1 = .success ∧ (d.number vendor).2.rules = d.rules ∧
      (d.number vendor).2.WellFormed := by
  have hsorted : ∀ vendor, (OperList.renumber (d.sortArray vendor) d.list).1 = .success ∧
      rules { d with list := (OperList.renumber (d.sortArray vendor) d.list).2 } = d.rules ∧
      WellFormed { d with list := (OperList.renumber (d.sortArray vendor) d.list).2 } :=
    fun vendor => ⟨(h.renumber vendor).1,
      map_renumber (fun e => (e.data, e.def')) (fun _ _ => rfl) _ _, (h.renumber vendor).2.1⟩
  cases vendor with
  | hwtc => exact ⟨rfl, rfl, h⟩
  | alcl => exact hsorted .alcl
  | generic => exact hsorted .generic

theorem rules_mapIdx (d : OperList) :
    rules { d with list := d.list.mapIdx fun i e => { e with idx := i } } = d.rules := by
  apply List.ext_getElem
  · rw [length_rules, length_rules, List.length_mapIdx]
  · intro i hi hi'
    simp only [rules, List.getElem_map, List.getElem_mapIdx]

theorem rules_insert (d : OperList) (tail : Bool) (entry : RxVlanOperTable) (def' : Bool) :
    (d.insert tail entry def').rules =
      if tail then d.rules ++ [(entry, def')] else (entry, def') :: d.rules := by
  rw [insert, rules]
  cases tail with
  | false => rfl
  | true => exact List.map_append

theorem WellFormed.add (h : d.WellFormed) (vendor : OltVendorType) (entry : RxVlanOperTable)
    (def' entryMem : Bool) : (d.add vendor entry def' entryMem).2.WellFormed := by
  have hsorted : (if d.list.any (·.hasKey entry.key) then
      (OmciError.success, { d with list := overrideFirst entry d.list })
      else if !entryMem then (.memory, d) else (.success, d.insert true entry def')).2.WellFormed := by
    split
    · exact h.of_map_eq (map_overrideFirst _ (fun e hkey => hkey.symm) _)
        (map_overrideFirst _ (fun _ _ => rfl) _) rfl rfl
    · rename_i hany
      split
      · exact h
      · exact h.insert true fun e he hkey => hany
          (any_hasKey_iff.mpr (List.mem_map.mpr ⟨e, he, hkey⟩))
  cases vendor with
  | hwtc =>
      have hremove := h.remove entry.key
      rw [OperList.add]
      cases entryMem with
      | false => exact hremove.1
      | true => exact (hremove.1.insert def' hremove.2).mapIdx.1
  | alcl => exact hsorted
  | generic => exact hsorted

/-- What a set makes of the list is what `add` makes of it. -/
theorem WellFormed.entrySetWith_add (h : d.WellFormed) (hset : entry.isDelete = false)
    (vendor : OltVendorType) (def' : Bool) (out : SetOutcomes) :
    (d.entrySetWith vendor entry def' out).2.rules =
        (d.add vendor entry def' out.entryMem).2.rules ∧
      (d.entrySetWith vendor entry def' out).2.WellFormed ∧
      ((d.entrySetWith vendor entry def' out).1 = .success ↔
        (d.add vendor entry def' out.entryMem).1 = .success ∧ out.sortMem = true ∧
          out.drv.all id = true) := by
  have hadd := h.add vendor entry def' out.entryMem
  have ⟨hnumber, hrules, hwell⟩ := hadd.number vendor
  rw [entrySetWith, if_neg (by rw [hset]; exact Bool.false_ne_true)]
  dsimp only
  by_cases hadded : (d.add vendor entry def' out.entryMem).1 = .success
  · rw [if_neg (not_not.mpr hadded)]
    cases hsort : out.sortMem with
    | false => exact ⟨rfl, hadd, iff_of_false nofun fun h => Bool.false_ne_true h.2.1⟩
    | true =>
        rw [hnumber, if_pos rfl, programmed_eq]
        refine ⟨hrules, hwell, ?_⟩
        cases out.drv.all id with
        | false => exact iff_of_false nofun fun h => Bool.false_ne_true h.2.2
        | true => exact iff_of_true rfl ⟨hadded, rfl, rfl⟩
  · rw [if_pos hadded]
    exact ⟨rfl, hadd, iff_of_false hadded fun h => hadded h.1⟩

theorem add_success_iff : (d.add vendor entry def' out.entryMem).1 = .success ↔
    out.entryMem = true ∨ vendor ≠ .hwtc ∧ entry.key ∈ d.keys := by
  rw [← any_hasKey_iff]
  cases vendor <;> cases out.entryMem <;> cases hany : d.list.any (·.hasKey entry.key) <;>
    simp [add, hany]

theorem length_remove_le (d : OperList) (key : BitVec 64) :
    d.list.length ≤ (d.remove key).list.length + 1 := by
  cases d.remove_cases key with
  | inl hnone => rw [hnone.2]; exact Nat.le_succ _
  | inr hold =>
      have ⟨_, _, _, hperm, _⟩ := hold
      exact Nat.le_of_eq hperm.length_eq

theorem rules_remove_iff {key : BitVec 64} : (d.remove key).rules = d.rules ↔ key ∉ d.keys := by
  cases d.remove_cases key with
  | inl hnone =>
      rw [hnone.2]
      refine iff_of_true rfl fun hkey => ?_
      have ⟨e, he, hsame⟩ := List.mem_map.mp hkey
      exact hnone.1 e he hsame
  | inr hold =>
      have ⟨old, hmem, hkey, hperm, _⟩ := hold
      refine iff_of_false (fun hrules => ?_) (not_not.mpr (List.mem_map.mpr ⟨old, hmem, hkey⟩))
      have hlength := congrArg List.length hrules
      rw [length_rules, length_rules, hperm.length_eq, List.length_cons] at hlength
      exact Nat.succ_ne_self _ hlength.symm

theorem rules_overrideFirst_iff (h : d.WellFormed) (hkey : entry.key ∈ d.keys) :
    rules { d with list := overrideFirst entry d.list } = d.rules ↔
      entry ∈ d.list.map (·.data) := by
  have hinj := List.inj_on_of_nodup_map h.keys
  rw [rules, rules]
  dsimp only
  rw [keys] at hkey
  generalize d.list = list at hkey hinj
  induction list with
  | nil => exact absurd hkey List.not_mem_nil
  | cons e rest ih =>
      rw [overrideFirst]
      by_cases hsame : e.hasKey entry.key = true
      · rw [if_pos hsame, List.map_cons, List.map_cons, List.cons.injEq, and_iff_left rfl,
          Prod.mk.injEq, and_iff_left rfl, List.map_cons, List.mem_cons]
        refine ⟨.inl, fun hmem => hmem.elim id fun hrest => ?_⟩
        obtain ⟨other, hother, hdata⟩ := List.mem_map.mp hrest
        have heq := hinj List.mem_cons_self (List.mem_cons_of_mem _ hother)
          ((RxVlanOperTableEntry.hasKey_iff.mp hsame).trans (congrArg (·.key) hdata.symm))
        rw [heq, hdata]
      · have hne : e.data.key ≠ entry.key := fun h => hsame (RxVlanOperTableEntry.hasKey_iff.mpr h)
        have hrest : entry.key ∈ rest.map (·.data.key) :=
          (List.mem_cons.mp hkey).resolve_left hne.symm
        have hih := ih hrest fun first hfirst second hsecond =>
          hinj (List.mem_cons_of_mem e hfirst) (List.mem_cons_of_mem e hsecond)
        rw [if_neg hsame, List.map_cons, List.map_cons, List.cons_inj_right, List.map_cons,
          List.mem_cons]
        apply hih.trans
        exact ⟨.inr, fun hmem => hmem.resolve_left fun hdata => hne (congrArg (·.key) hdata.symm)⟩

/-- A new rule in front gives the list back exactly if it was in front. -/
theorem rules_replace_iff : ((d.remove entry.key).insert false entry false).rules = d.rules ↔
    d.rules.head? = some (entry, false) := by
  rw [rules_insert, if_neg Bool.false_ne_true]
  apply Iff.intro
  · intro hrules
    rw [← hrules, List.head?_cons]
  · intro hhead
    rw [remove, rules]
    cases hlist : d.list with
    | nil => rw [rules, hlist] at hhead; cases hhead
    | cons e rest =>
        rw [rules, hlist, List.map_cons, List.head?_cons, Option.some_inj] at hhead
        have hkey : e.hasKey entry.key = true :=
          RxVlanOperTableEntry.hasKey_iff.mpr (congrArg (fun rule => rule.1.key) hhead)
        rw [List.find?_cons_of_pos hkey]
        dsimp only
        rw [List.eraseP_cons_of_pos hkey, rules, hlist, List.map_cons, hhead]

/-! ## A SET of a rule -/

theorem WellFormed.entrySetWith (h : d.WellFormed) (vendor : OltVendorType)
    (entry : RxVlanOperTable) (def' : Bool) (out : SetOutcomes) :
    (d.entrySetWith vendor entry def' out).2.WellFormed := by
  cases hdelete : entry.isDelete with
  | false => exact (h.entrySetWith_add hdelete vendor def' out).2.1
  | true =>
      rw [OperList.entrySetWith, if_pos hdelete]
      split
      · exact (h.remove entry.key).1
      · exact h

theorem WellFormed.entrySetWith_success_iff (h : d.WellFormed) :
    (d.entrySetWith vendor entry def' out).1 = .success ↔ Accepted vendor d.keys entry out := by
  rw [Accepted]
  cases hdelete : entry.isDelete with
  | false =>
      rw [(h.entrySetWith_add hdelete vendor def' out).2.2, add_success_iff, if_neg Bool.false_ne_true,
        ← and_assoc, and_comm, and_comm (a := out.sortMem = true)]
  | true =>
      rw [OperList.entrySetWith, if_pos hdelete, if_pos rfl, programmed_eq]
      by_cases hkey : entry.key ∈ d.keys
      · rw [if_pos (any_hasKey_iff.mpr hkey), and_iff_left hkey]
        cases out.drv.all id with
        | false => exact iff_of_false nofun Bool.false_ne_true
        | true => exact iff_of_true rfl rfl
      · rw [if_neg (mt any_hasKey_iff.mp hkey)]
        exact iff_of_false nofun fun h => hkey h.2

/-- The rules stay exactly if the SET changes nothing. -/
theorem WellFormed.rules_entrySetWith_iff (h : d.WellFormed) :
    (d.entrySetWith vendor entry false out).2.rules = d.rules ↔
      d.Untouched vendor entry out := by
  unfold Untouched
  cases hdelete : entry.isDelete with
  | true =>
      rw [OperList.entrySetWith, if_pos hdelete, if_pos rfl]
      by_cases hkey : entry.key ∈ d.keys
      · rw [if_pos (any_hasKey_iff.mpr hkey)]
        exact rules_remove_iff
      · rw [if_neg (mt any_hasKey_iff.mp hkey)]
        exact iff_of_true rfl hkey
  | false =>
      rw [(h.entrySetWith_add hdelete vendor false out).1, if_neg Bool.false_ne_true]
      have hsorted : rules (if d.list.any (·.hasKey entry.key) then
          (OmciError.success, { d with list := overrideFirst entry d.list })
          else if !out.entryMem then (.memory, d)
          else (.success, d.insert true entry false)).2 = d.rules ↔
          out.entryMem = false ∧ entry.key ∉ d.keys ∨ entry ∈ d.list.map (·.data) := by
        by_cases hkey : entry.key ∈ d.keys
        · rw [if_pos (any_hasKey_iff.mpr hkey), or_iff_right fun hnew => hnew.2 hkey]
          exact rules_overrideFirst_iff h hkey
        · have hnew : entry ∉ d.list.map (·.data) := by
            intro hmem
            have ⟨e, he, hdata⟩ := List.mem_map.mp hmem
            exact hkey (List.mem_map.mpr ⟨e, he, congrArg (·.key) hdata⟩)
          rw [if_neg (mt any_hasKey_iff.mp hkey), or_iff_left hnew, and_iff_left hkey]
          cases out.entryMem with
          | false => exact iff_of_true rfl rfl
          | true =>
              refine iff_of_false (fun hrules => ?_) Bool.true_eq_false.mp
              have hlength := congrArg List.length hrules
              rw [if_neg (by decide), rules_insert, if_pos rfl, List.length_append] at hlength
              exact Nat.succ_ne_self _ hlength
      cases vendor with
      | hwtc =>
          dsimp only
          rw [OperList.add]
          cases out.entryMem with
          | false => exact rules_remove_iff
          | true =>
              rw [if_neg (by decide), if_pos rfl, ← rules_replace_iff]
              exact Eq.congr_left (rules_mapIdx _)
      | alcl => exact hsorted
      | generic => exact hsorted

theorem length_entrySetWith_le (h : d.WellFormed) :
    d.list.length ≤ (d.entrySetWith vendor entry def' out).2.list.length + 1 := by
  cases hdelete : entry.isDelete with
  | true =>
      rw [entrySetWith, if_pos hdelete]
      split
      · exact length_remove_le d entry.key
      · exact Nat.le_succ _
  | false =>
      have hlength := congrArg List.length (h.entrySetWith_add hdelete vendor def' out).1
      rw [length_rules, length_rules] at hlength
      rw [hlength]
      have hremove := length_remove_le d entry.key
      have hsorted : d.list.length ≤ (if d.list.any (·.hasKey entry.key) then
          (OmciError.success, { d with list := overrideFirst entry d.list })
          else if !out.entryMem then (.memory, d)
          else (.success, d.insert true entry def')).2.list.length + 1 := by
        split
        · have hmap := congrArg List.length
            (@map_overrideFirst entry _ (fun _ => ()) (fun _ _ => rfl) d.list)
          rw [List.length_map, List.length_map] at hmap
          rw [hmap]
          exact Nat.le_succ _
        · split
          · exact Nat.le_succ _
          · rw [(d.insert_perm true entry def').length_eq]
            exact Nat.le_succ_of_le (Nat.le_succ _)
      cases vendor with
      | hwtc =>
          rw [add]
          cases out.entryMem with
          | false => exact hremove
          | true =>
              dsimp only
              rw [if_neg (by decide), List.length_mapIdx,
                ((d.remove entry.key).insert_perm def' entry def').length_eq]
              exact Nat.le_succ_of_le hremove
      | alcl => exact hsorted
      | generic => exact hsorted

/-! ## The default rules -/

/-- A default rule that is not there yet. -/
theorem WellFormed.entrySetWith_new (h : d.WellFormed) (hset : entry.isDelete = false)
    (hnew : entry.key ∉ d.keys) (vendor : OltVendorType) (out : SetOutcomes) :
    (d.entrySetWith vendor entry true out).2.keys =
        (if out.entryMem then d.keys ++ [entry.key] else d.keys) ∧
      ((d.entrySetWith vendor entry true out).1 = .success ↔
        out.entryMem = true ∧ out.sortMem = true ∧ out.drv.all id = true) := by
  have ⟨hrules, _, hsuccess⟩ := h.entrySetWith_add hset vendor true out
  rw [hsuccess, add_success_iff, or_iff_left fun hkey => hnew hkey.2]
  refine ⟨?_, Iff.rfl⟩
  have hremove : d.remove entry.key = d := by
    cases d.remove_cases entry.key with
    | inl hnone => exact hnone.2
    | inr hold =>
        have ⟨old, hmem, hkey, _⟩ := hold
        exact absurd (List.mem_map.mpr ⟨old, hmem, hkey⟩) hnew
  have hkeys : (d.insert true entry true).rules.map (fun rule => rule.1.key) =
      d.keys ++ [entry.key] := by
    rw [rules_insert, if_pos rfl, List.map_append, ← keys_eq_map_rules]
    rfl
  have hany : d.list.any (·.hasKey entry.key) = false :=
    Bool.eq_false_iff.mpr (mt any_hasKey_iff.mp hnew)
  rw [keys_eq_map_rules, hrules]
  cases vendor with
  | hwtc =>
      rw [OperList.add, hremove]
      cases out.entryMem with
      | false => exact (keys_eq_map_rules d).symm
      | true => exact (congrArg (List.map _) (rules_mapIdx _)).trans hkeys
  | alcl | generic =>
      rw [OperList.add, hany]
      cases out.entryMem with
      | false => exact (keys_eq_map_rules d).symm
      | true => exact hkeys

theorem WellFormed.createDefaultsWith (h : d.WellFormed) {entries : List RxVlanOperTable}
    (hset : ∀ entry ∈ entries, entry.isDelete = false)
    (hnodup : (d.keys ++ entries.map (·.key)).Nodup) (vendor : OltVendorType)
    (outs : List SetOutcomes) : (d.createDefaultsWith vendor entries outs).2.WellFormed ∧
      d.keys.length ≤ (d.createDefaultsWith vendor entries outs).2.keys.length ∧
      ((d.createDefaultsWith vendor entries outs).1 = .success ↔ ∀ i < entries.length,
        (outs.getD i .granted).entryMem = true ∧ (outs.getD i .granted).sortMem = true ∧
          (outs.getD i .granted).drv.all id = true) ∧
      ((d.createDefaultsWith vendor entries outs).1 = .success →
        (d.createDefaultsWith vendor entries outs).2.keys = d.keys ++ entries.map (·.key)) := by
  induction entries generalizing d outs with
  | nil =>
      exact ⟨h, Nat.le_refl _, iff_of_true rfl fun i hi => absurd hi (Nat.not_lt_zero i),
        fun _ => (List.append_nil _).symm⟩
  | cons entry rest ih =>
      have ⟨hentry, hrest⟩ := List.forall_mem_cons.mp hset
      have hnew : entry.key ∉ d.keys := fun hkey =>
        (List.nodup_append.mp hnodup).2.2 _ hkey _ List.mem_cons_self rfl
      have hhead : outs.headD .granted = outs.getD 0 .granted := by cases outs <;> rfl
      have htail : ∀ i, outs.tail.getD i .granted = outs.getD (i + 1) .granted := by
        intro i
        cases outs <;> rfl
      have ⟨hkeys, hsuccess⟩ :=
        h.entrySetWith_new hentry hnew vendor (outs.headD .granted)
      have hwell := h.entrySetWith vendor entry true (outs.headD .granted)
      rw [OperList.createDefaultsWith]
      by_cases hcreated : (d.entrySetWith vendor entry true (outs.headD .granted)).1 = .success
      · have hgranted := hsuccess.mp hcreated
        rw [if_pos hgranted.1] at hkeys
        have hnodup' : ((d.entrySetWith vendor entry true (outs.headD .granted)).2.keys ++
            rest.map (·.key)).Nodup := by
          rw [hkeys, List.append_assoc]
          exact hnodup
        have ⟨hwell, hlength, hall, hlist⟩ := ih hwell hrest hnodup' outs.tail
        rw [if_pos hcreated]
        refine ⟨hwell, ?_, ?_, fun hsuccess => ?_⟩
        · rw [hkeys, List.length_append] at hlength
          exact Nat.le_of_add_right_le hlength
        · rw [hall]
          apply Iff.intro
          · intro h i hi
            cases i with
            | zero => exact hhead ▸ hgranted
            | succ i => exact htail i ▸ h i (Nat.lt_of_succ_lt_succ hi)
          · exact fun h i hi => htail i ▸ h (i + 1) (Nat.succ_lt_succ hi)
        · rw [hlist hsuccess, hkeys, List.append_assoc]
          rfl
      · rw [if_neg hcreated]
        refine ⟨hwell, ?_, iff_of_false hcreated fun h => hcreated (hsuccess.mpr ?_),
          fun h => absurd h hcreated⟩
        · rw [hkeys]
          split
          · rw [List.length_append]
            exact Nat.le_add_right _ _
          · exact Nat.le_refl _
        · exact hhead ▸ h 0 (Nat.succ_pos _)

/-- Creating default rules adds at least the first one, unless it gets no memory. -/
theorem WellFormed.createDefaultsWith_keys_iff (h : d.WellFormed) {entries : List RxVlanOperTable}
    (hset : ∀ e ∈ entry :: entries, e.isDelete = false)
    (hnodup : (d.keys ++ (entry :: entries).map (·.key)).Nodup) (vendor : OltVendorType)
    (outs : List SetOutcomes) :
    (d.createDefaultsWith vendor (entry :: entries) outs).2.keys = d.keys ↔
      (outs.headD .granted).entryMem = false := by
  have ⟨hentry, hrest⟩ := List.forall_mem_cons.mp hset
  have hnew : entry.key ∉ d.keys := fun hkey =>
    (List.nodup_append.mp hnodup).2.2 _ hkey _ List.mem_cons_self rfl
  have ⟨hkeys, hsuccess⟩ := h.entrySetWith_new hentry hnew vendor (outs.headD .granted)
  have hwell := h.entrySetWith vendor entry true (outs.headD .granted)
  rw [OperList.createDefaultsWith]
  cases hmem : (outs.headD .granted).entryMem with
  | false =>
      rw [hmem, if_neg Bool.false_ne_true] at hkeys
      rw [if_neg fun hcreated => Bool.false_ne_true (hmem.symm.trans (hsuccess.mp hcreated).1)]
      exact iff_of_true hkeys rfl
  | true =>
      rw [hmem, if_pos rfl] at hkeys
      refine iff_of_false (fun hsame => ?_) Bool.true_eq_false.mp
      have hnodup' : ((d.entrySetWith vendor entry true (outs.headD .granted)).2.keys ++
          entries.map (·.key)).Nodup := by
        rw [hkeys, List.append_assoc]
        exact hnodup
      have ⟨_, hlength, _⟩ := hwell.createDefaultsWith hrest hnodup' vendor outs.tail
      rw [hkeys, List.length_append] at hlength
      split at hsame
      · rw [hsame] at hlength
        exact Nat.not_succ_le_self _ hlength
      · exact absurd (congrArg List.length (hkeys.symm.trans hsame)) (by simp)

theorem rxVlanDef_keys : (rxVlanDef.map (·.key)).Nodup := by
  decide

theorem rules_eq_nil_iff (d : OperList) : d.rules = [] ↔ d.keys = [] := by
  rw [rules, keys, List.map_eq_nil_iff, List.map_eq_nil_iff]

theorem WellFormed.prepareWith (h : d.WellFormed) (vendor : OltVendorType) (update : ListUpdate) :
    (d.prepareWith vendor update).2.WellFormed := by
  have hcreated : (if d.entriesNum = 0 then
      d.createDefaultsWith vendor rxVlanDef update.defaults else (.success, d)).2.WellFormed := by
    split
    · rename_i hzero
      have hnone : d.keys = [] := List.map_eq_nil_iff.mpr
        (List.length_eq_zero_iff.mp (h.entriesNum.symm.trans hzero))
      exact (h.createDefaultsWith rxVlanDef_isDelete (by rw [hnone]; exact rxVlanDef_keys) _ _).1
    · exact h
  rw [OperList.prepareWith]
  generalize (if d.entriesNum = 0 then d.createDefaultsWith vendor rxVlanDef update.defaults
    else (.success, d)) = created at hcreated ⊢
  split
  · exact h
  · dsimp only
    split <;> exact hcreated

theorem WellFormed.meUpdateWith (h : d.WellFormed) (vendor : OltVendorType) (update : ListUpdate) :
    (d.meUpdateWith vendor update).2.WellFormed := by
  have hprepared := h.prepareWith vendor update
  rw [OperList.meUpdateWith]
  cases update.table with
  | none => exact hprepared
  | some table =>
      dsimp only
      split
      · exact hprepared.entrySetWith vendor table.1 false table.2
      · exact hprepared

theorem wellFormed_runUpdates (vendor : OltVendorType) (updates : List ListUpdate) :
    (runUpdates vendor updates).WellFormed := by
  have hrun : ∀ d : OperList, d.WellFormed →
      (updates.foldl (fun d update => (d.meUpdateWith vendor update).2) d).WellFormed := by
    induction updates with
    | nil => exact fun _ h => h
    | cons update rest ih => exact fun d h => ih _ (h.meUpdateWith vendor update)
  exact hrun init ⟨List.nodup_nil, rfl, rfl⟩

theorem WellFormed.answered_iff {prepared : OperList} (h : prepared.WellFormed) :
    ((prepared.entrySetWith vendor entry false out).1 ≠ .success →
      (prepared.entrySetWith vendor entry false out).2.rules = prepared.rules) ↔
    Accepted vendor prepared.keys entry out ∨ prepared.Untouched vendor entry out := by
  rw [h.rules_entrySetWith_iff, ne_eq, h.entrySetWith_success_iff, ← or_iff_not_imp_left]

/-- A SET in an empty list, where the default rules are created first. -/
theorem WellFormed.empty_iff (h : d.WellFormed) (hempty : d.list = []) (vendor : OltVendorType)
    (outs : List SetOutcomes) (mcUpdate : Option Bool) (entry : RxVlanOperTable)
    (out : SetOutcomes) :
    let created := d.createDefaultsWith vendor rxVlanDef outs
    let answered := if created.1 = .success then
      (if mcUpdate = some false then (.drv, created.2)
      else created.2.entrySetWith vendor entry false out) else created
    (answered.1 ≠ .success → answered.2.rules = d.rules) ↔
      (outs.headD .granted).entryMem = false ∨
        (∀ i < 3, (outs.getD i .granted).entryMem = true ∧
          (outs.getD i .granted).sortMem = true ∧ (outs.getD i .granted).drv.all id = true) ∧
        mcUpdate ≠ some false ∧ Accepted vendor (rxVlanDef.map (·.key)) entry out := by
  intro created answered
  have hnone : d.keys = [] := by rw [OperList.keys, hempty]; rfl
  have hnodup : (d.keys ++ rxVlanDef.map (·.key)).Nodup := by
    rw [hnone]
    exact rxVlanDef_keys
  have ⟨hwell, _, hall, hkeys⟩ := h.createDefaultsWith rxVlanDef_isDelete hnodup vendor outs
  have hall : created.1 = .success ↔ ∀ i < 3, (outs.getD i .granted).entryMem = true ∧
      (outs.getD i .granted).sortMem = true ∧ (outs.getD i .granted).drv.all id = true := hall
  have hrules := (rules_eq_nil_iff d).mpr hnone
  have hfirst : created.2.rules = d.rules ↔ (outs.headD .granted).entryMem = false := by
    rw [hrules, rules_eq_nil_iff, ← hnone]
    exact h.createDefaultsWith_keys_iff rxVlanDef_isDelete hnodup vendor outs
  rw [hnone, List.nil_append] at hkeys
  rw [← hall]
  by_cases hcreated : created.1 = .success
  · have hsome : created.2.rules ≠ d.rules := by
      rw [hrules, ne_eq, rules_eq_nil_iff, hkeys hcreated]
      exact nofun
    have hmem := mt hfirst.mpr hsome
    rw [or_iff_right hmem, and_iff_right hcreated]
    by_cases hmc : mcUpdate = some false
    · have hanswered : answered = (.drv, created.2) := by
        rw [show answered = _ from if_pos hcreated, if_pos hmc]
      rw [hanswered]
      exact iff_of_false (fun hsame => hsome (hsame nofun)) fun hright => hright.1 hmc
    · have hanswered : answered = created.2.entrySetWith vendor entry false out := by
        rw [show answered = _ from if_pos hcreated, if_neg hmc]
      rw [hanswered, and_iff_right hmc, ← hkeys hcreated, ← hwell.entrySetWith_success_iff]
      have hlength : created.2.list.length = 3 := by
        have hlength := congrArg List.length (hkeys hcreated)
        rwa [OperList.keys, List.length_map] at hlength
      have hleft : (created.2.entrySetWith vendor entry false out).2.rules ≠ d.rules := by
        intro hsame
        have hle := @length_entrySetWith_le vendor _ entry false out hwell
        rw [hlength, ← length_rules, hsame, length_rules, hempty] at hle
        exact absurd hle (by decide)
      exact ⟨fun hsame => by_contra fun hrefused => hleft (hsame hrefused),
        fun hsuccess hrefused => absurd hsuccess hrefused⟩
  · have hanswered : answered = created := if_neg hcreated
    rw [hanswered, or_iff_left fun hright => hcreated hright.1, ← hfirst]
    exact ⟨fun hsame => hsame hcreated, fun hsame _ => hsame⟩

theorem WellFormed.atomic_iff (h : d.WellFormed) (vendor : OltVendorType) (update : ListUpdate) :
    d.Atomic vendor update ↔ Safe vendor d update := by
  have hatomic : d.Atomic vendor update ↔ (update.table.isSome →
      (d.meUpdateWith vendor update).1 ≠ .success →
      (d.meUpdateWith vendor update).2.rules = d.rules) := by
    apply Iff.intro
    · exact fun hatomic hsome hrefused => (hatomic hsome hrefused).1
    · exact fun hrules hsome hrefused => ⟨hrules hsome hrefused,
        h.counts (h.meUpdateWith vendor update) (hrules hsome hrefused)⟩
  rw [hatomic, Safe]
  cases htable : update.table with
  | none => exact iff_of_true nofun fun _ _ hsome => nomatch hsome
  | some table =>
      obtain ⟨entry, out⟩ := table
      simp only [Option.isSome_some, forall_const, Option.some.injEq, Prod.mk.injEq, and_imp,
        forall_eq', forall_apply_eq_imp_iff, OperList.meUpdateWith, htable]
      by_cases hcfg : update.cfgUpdate = some false
      · rw [OperList.prepareWith, if_pos hcfg]
        exact iff_of_true (fun _ => rfl) (.inl hcfg)
      rw [or_iff_right hcfg, OperList.prepareWith, if_neg hcfg]
      by_cases hempty : d.list = []
      · have hzero : d.entriesNum = 0 := by rw [h.entriesNum, hempty]; rfl
        rw [if_pos hzero, if_pos hempty]
        refine Iff.trans ?_ (h.empty_iff hempty vendor update.defaults update.mcUpdate entry out)
        by_cases hcreated :
            (d.createDefaultsWith vendor rxVlanDef update.defaults).1 = .success
        · by_cases hmc : update.mcUpdate = some false
          · simp [hcreated, hmc]
          · simp [hcreated, hmc]
        · simp [hcreated]
      · have hzero : d.entriesNum ≠ 0 := fun hzero =>
          hempty (List.length_eq_zero_iff.mp (h.entriesNum.symm.trans hzero))
        rw [if_neg hzero, if_neg hempty, ← h.answered_iff]
        by_cases hmc : update.mcUpdate = some false
        · simp [hmc]
        · simp [hmc]

end OperList

/-- After any updates, whatever failed in them: a SET of a rule that is refused leaves the list
as it was exactly if it is safe. -/
theorem refusal_atomic_iff (vendor : OltVendorType) (updates : List ListUpdate)
    (update : ListUpdate) : (OperList.runUpdates vendor updates).Atomic vendor update ↔
      OperList.Safe vendor (OperList.runUpdates vendor updates) update :=
  (OperList.wellFormed_runUpdates vendor updates).atomic_iff vendor update

/-- The driver refuses the delete of a default rule, which is gone from the list. -/
theorem refusal_not_atomic :
    ¬∀ (updates : List ListUpdate) (update : ListUpdate),
      (OperList.runUpdates .hwtc updates).Atomic .hwtc update := by
  intro hatomic
  have hsame := hatomic [⟨none, [], none, none⟩] ⟨none, [], none,
    some (⟨15, 4096, 0, 0, 15, 4096, 0, 0, 0, 3, 0x3ff, 15, 0x1fff, 7, 0xfff, 15, 0x1fff, 7⟩,
      ⟨true, true, [false]⟩)⟩ rfl (by decide)
  exact absurd hsame.2.1 (by decide)

end FalconGpon.Vlan
