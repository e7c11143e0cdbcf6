/-
# The list of received VLAN rules

The Extended VLAN ME keeps its rules in a list. A SET adds a rule, overrides the one with the
same first eight bytes, or deletes it. For the OLTs of one vendor a new rule goes to the head of
the list and the indices follow the list; for the others it goes to the tail and the indices
follow the rules sorted by their first eight bytes, the default rules behind. Memory does not
run out.

`operList_sound_iff`: over all sequences of updates the list has one rule for each key, the
counters count it, the indices number its rules and the read-out of the table writes every rule
once, exactly if every delete takes the rule with the last index. A delete leaves the other
indices as they are.
-/

import FalconGpon.Lib.Indexing
import FalconGpon.Lib.Transition
import FalconGpon.Omci.Message
import FalconGpon.Vlan.Rules

namespace FalconGpon.Vlan

open FalconGpon.Lib
open FalconGpon.Omci (OmciError)

/-- The first eight bytes of a rule, as `memcmp` compares them. -/
def RxVlanOperTable.key (e : RxVlanOperTable) : BitVec 64 :=
  e.filterOuterPrio ++ e.filterOuterVid ++ e.filterOuterTpidDe ++ e.word1Padding ++
    e.filterInnerPrio ++ e.filterInnerVid ++ e.filterInnerTpidDe ++ e.word2Padding ++
    e.filterEtherType

/-- The last eight bytes are all ones: delete the rule. -/
def RxVlanOperTable.isDelete (e : RxVlanOperTable) : Bool :=
  e.treatmentTagsRemove = 0x3 ∧ e.word3Padding = 0x3ff ∧ e.treatmentOuterPrio = 0xf ∧
    e.treatmentOuterVid = 0x1fff ∧ e.treatmentOuterTpidDe = 0x7 ∧ e.word4Padding = 0xfff ∧
    e.treatmentInnerPrio = 0xf ∧ e.treatmentInnerVid = 0x1fff ∧ e.treatmentInnerTpidDe = 0x7

/-- `struct rx_vlan_oper_table_entry`. -/
structure RxVlanOperTableEntry where
  data : RxVlanOperTable
  idx : Nat
  def' : Bool

/-- The `memcmp` of an entry of the list with a rule. -/
def RxVlanOperTableEntry.hasKey (key : BitVec 64) (e : RxVlanOperTableEntry) : Bool :=
  e.data.key = key

/-- `enum olt_vendor_type`. -/
inductive OltVendorType
  | hwtc
  | alcl
  | generic
deriving DecidableEq

/-- The list of `struct internal_data` with its counters. -/
structure OperList where
  list : List RxVlanOperTableEntry
  entriesNum : Nat
  defEntriesNum : Nat

namespace OperList

/-- The list after `me_init`. -/
def init : OperList :=
  ⟨[], 0, 0⟩

/-- Take the entry with a key out of the list. -/
def remove (d : OperList) (key : BitVec 64) : OperList :=
  match d.list.find? (·.hasKey key) with
  | none => d
  | some old =>
      { list := d.list.eraseP (·.hasKey key)
        entriesNum := d.entriesNum - 1
        defEntriesNum := if old.def' then d.defEntriesNum - 1 else d.defEntriesNum }

/-- Put a new entry at the head or at the tail of the list; its index is set later. -/
def insert (d : OperList) (tail : Bool) (entry : RxVlanOperTable) (def' : Bool) : OperList where
  list := if tail then d.list ++ [⟨entry, 0, def'⟩] else ⟨entry, 0, def'⟩ :: d.list
  entriesNum := d.entriesNum + 1
  defEntriesNum := if def' then d.defEntriesNum + 1 else d.defEntriesNum

/-- Overwrite the rule of the first entry with the same key. -/
def overrideFirst (entry : RxVlanOperTable) :
    List RxVlanOperTableEntry → List RxVlanOperTableEntry
  | [] => []
  | e :: rest =>
      if e.hasKey entry.key then { e with data := entry } :: rest
      else e :: overrideFirst entry rest

/-- The `sort_array`: the list itself, or the rules that are no default ones sorted by key and
the default ones behind. -/
def sortArray (vendor : OltVendorType) (d : OperList) : List RxVlanOperTable :=
  match vendor with
  | .hwtc => d.list.map (·.data)
  | .alcl | .generic =>
      ((d.list.filter (!·.def')).map (·.data)).mergeSort (fun e e' => e.key ≤ e'.key) ++
        (d.list.filter (·.def')).map (·.data)

/-- Set the index of each entry to the first place in `sort_array` with the same key. -/
def renumber (sorted : List RxVlanOperTable) :
    List RxVlanOperTableEntry → OmciError × List RxVlanOperTableEntry
  | [] => (.success, [])
  | e :: rest =>
      if e.data.key ∈ sorted.map (·.key) then
        let renumbered := renumber sorted rest
        (renumbered.1, { e with idx := (sorted.map (·.key)).idxOf e.data.key } :: renumbered.2)
      else (.invalidVal, e :: rest)

/-- The set path of `rx_vlan_oper_table_entry_set` up to the programming of the hardware. -/
def set (vendor : OltVendorType) (d : OperList) (entry : RxVlanOperTable) (def' : Bool) :
    OmciError × OperList :=
  match vendor with
  | .hwtc =>
      let added := (d.remove entry.key).insert def' entry def'
      (.success, { added with list := added.list.mapIdx fun i e => { e with idx := i } })
  | .alcl | .generic =>
      let added :=
        if d.list.any (·.hasKey entry.key) then
          { d with list := overrideFirst entry d.list }
        else d.insert true entry def'
      let renumbered := renumber (added.sortArray vendor) added.list
      (renumbered.1, { added with list := renumbered.2 })

/-- `rx_vlan_oper_table_entry_set`, as far as it changes the list; `drv` says whether the
hardware could be programmed. -/
def entrySet (vendor : OltVendorType) (d : OperList) (entry : RxVlanOperTable) (def' drv : Bool) :
    OmciError × OperList :=
  if entry.isDelete then
    if d.list.any (·.hasKey entry.key) then
      (if drv then .success else .drv, d.remove entry.key)
    else (.invalidVal, d)
  else
    let changed := d.set vendor entry def'
    (if changed.1 = .success ∧ !drv then .drv else changed.1, changed.2)

/-- `me_tbl_copy`: the rules in the bytes allocated for `entries_num` of them; no result if one
is written outside. -/
def meTblCopy (d : OperList) : Option (List (Option RxVlanOperTable)) :=
  scatter (d.list.map fun e => (e.idx, e.data)) (List.replicate d.entriesNum none)

end OperList

/-- `rx_vlan_def`. -/
def rxVlanDef : List RxVlanOperTable :=
  [ ⟨15, 4096, 0, 0, 15, 4096, 0, 0, 0, 0, 0, 15, 0, 0, 0, 15, 0, 0⟩,
    ⟨15, 4096, 0, 0, 14, 4096, 0, 0, 0, 0, 0, 15, 0, 0, 0, 15, 0, 0⟩,
    ⟨14, 4096, 0, 0, 14, 4096, 0, 0, 0, 0, 0, 15, 0, 0, 0, 15, 0, 0⟩ ]

/-- A call of `me_update`, with the outcomes of its driver calls. -/
structure MeUpdate where
  /-- Whether other attributes are updated, and whether that succeeds. -/
  cfgUpdate : Option Bool
  /-- Whether the hardware takes each of the default rules. -/
  defaults : List Bool
  /-- Whether there are multicast entries, and whether updating them succeeds. -/
  mcUpdate : Option Bool
  /-- The rule of a table SET, and whether the hardware takes it. -/
  table : Option (RxVlanOperTable × Bool)

namespace OperList

/-- Create default rules until one fails. -/
def createDefaults (vendor : OltVendorType) (d : OperList) :
    List RxVlanOperTable → List Bool → OmciError × OperList
  | [], _ => (.success, d)
  | entry :: rest, drv =>
      let created := d.entrySet vendor entry true (drv.headD true)
      if created.1 = .success then createDefaults vendor created.2 rest drv.tail else created

/-- The part of `me_update` before the table SET. -/
def prepare (vendor : OltVendorType) (d : OperList) (update : MeUpdate) : OmciError × OperList :=
  if update.cfgUpdate = some false then (.drv, d)
  else
    let created :=
      if d.entriesNum = 0 then createDefaults vendor d rxVlanDef update.defaults
      else (.success, d)
    if created.1 = .success ∧ update.mcUpdate = some false then (.drv, created.2) else created

/-- `me_update`, as far as it changes the list. -/
def meUpdate (vendor : OltVendorType) (d : OperList) (update : MeUpdate) : OmciError × OperList :=
  let prepared := d.prepare vendor update
  match update.table with
  | none => prepared
  | some (entry, drv) =>
      if prepared.1 = .success then prepared.2.entrySet vendor entry false drv else prepared

end OperList

def operListStep (vendor : OltVendorType) (d : OperList) (update : MeUpdate) : Option OperList :=
  some (d.meUpdate vendor update).2

/-- One rule for each key, right counters, the indices are the numbers below `entries_num`, and
the read-out has every rule once. -/
structure OperList.Sound (d : OperList) : Prop where
  keys : (d.list.map (·.data.key)).Nodup
  entriesNum : d.entriesNum = d.list.length
  defEntriesNum : d.defEntriesNum = d.list.countP (·.def')
  indices : (d.list.map (·.idx)).Perm (List.range d.entriesNum)
  readOut : ∃ slots, d.meTblCopy = some slots ∧ slots.Perm (d.list.map fun e => some e.data)

/-- A delete that is reached takes the rule with the last index. -/
def DeletesLast (vendor : OltVendorType) (d : OperList) (update : MeUpdate) : Prop :=
  ∀ entry drv, update.table = some (entry, drv) → (d.prepare vendor update).1 = .success →
    entry.isDelete = true → ∀ old ∈ (d.prepare vendor update).2.list, old.data.key = entry.key →
      old.idx + 1 = (d.prepare vendor update).2.entriesNum

end FalconGpon.Vlan
