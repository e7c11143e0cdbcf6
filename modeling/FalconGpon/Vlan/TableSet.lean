/-
# A SET of the VLAN table

`rx_vlan_oper_table_entry_set` changes the list of rules and brings the hardware in line with
it. A delete takes one rule out of the tables of the hardware, by the index that is stored with
the rule. Otherwise the tables are cleared and all rules are programmed again, in the order of
the `sort_array`; what clearing comes to is not looked at.
-/

import FalconGpon.Vlan.GpeTables
import FalconGpon.Vlan.Split

namespace FalconGpon.Vlan

open FalconGpon.Lib
open FalconGpon.Omci (OmciError)

/-- What a SET depends on besides the ME. -/
structure SetContext where
  vendor : OltVendorType
  /-- `OMCI_IOP_OPTION_8`. -/
  iopOption8 : Bool
  dsMode : BitVec 8
  /-- `me->instance_id`. -/
  id : BitVec 16
  /-- The text of `/tmp/8311_dual_vlan.conf`. -/
  file : Option (List Char)
  /-- What `mapper_me_ids` holds before it is written. -/
  stack : Nat → Nat → BitVec 16

/-- `struct internal_data`; the active shadow tables by their mapper MEs. -/
structure ExtVlanMe where
  oper : OperList
  shadowDs : List (BitVec 16)

namespace SetContext

variable (env : SetContext)

def groups (sorted : List RxVlanOperTable) : List DsCollisionGroup :=
  if env.dsMode = 0 then detectDsCollisions 4 [] sorted else []

def config (sorted : List RxVlanOperTable) : DualVlanConfig :=
  if env.groups sorted = [] then ⟨false, []⟩ else readDualVlanConfig env.file

/-- The mapper ME whose table takes a rule downstream; 0 for the table of the ME itself. -/
def shadowOf (sorted : List RxVlanOperTable) (e : RxVlanOperTable) : BitVec 16 :=
  if (env.config sorted).entries = [] then 0
  else
    match collisionOf (env.groups sorted) e with
    | some (g, v) => mapperMeId (env.config sorted) env.stack g v e.filterInnerVid
    | none => 0

/-- The mapper MEs of all places in all groups, none for 0. -/
def shadowMappers (sorted : List RxVlanOperTable) : List (BitVec 16) :=
  if (env.config sorted).entries = [] then []
  else
    ((env.groups sorted).zipIdx.flatMap fun group =>
      group.1.filterVids.zipIdx.map fun vid =>
        mapperMeId (env.config sorted) env.stack group.2 vid.2 vid.1).filter (· ≠ 0)

def dsFilter (e : RxVlanOperTable) : VlanFilter :=
  if env.iopOption8 then { e.filter with treatmentInnerPriority := 0, treatmentInnerVid := 0 }
  else e.filter

end SetContext

/-- Create the shadow tables; those that succeed are recorded while there is room. -/
def createShadows : List (BitVec 16) → List (BitVec 16) → Program Gpe (List (BitVec 16))
  | recorded, [] => pure recorded
  | recorded, mapper :: rest => do
      let ok ← (shadowDsCreateAndLink mapper).succeeds
      createShadows
        (if ok ∧ recorded.length < maxShadowDsTables then recorded ++ [mapper] else recorded) rest

/-- Destroy the recorded shadow tables. -/
def destroyShadows : List (BitVec 16) → Program Gpe Unit
  | [] => pure ()
  | mapper :: rest => do
      (shadowDsDestroy mapper).attempt
      destroyShadows rest

/-- The downstream part of the loop for a rule that goes to a shadow table. -/
def programShadow (mapper : BitVec 16) (f : VlanFilter) : Program Gpe Unit := do
  extVlanIdxGet mapper true
  match findExtVlanRule f with
  | some omciIdx => (extVlanRuleAdd true mapper 0 omciIdx f).attempt
  | none => pure ()

/-- The downstream part of the loop for a rule that goes to the table of the ME. -/
def programDs (env : SetContext) (dsIdx : Nat) (f : VlanFilter) : Program Gpe Nat := do
  if env.vendor = .alcl then do
    iopDsEntryAdd env.id dsIdx
    entryAddDir env.id (dsIdx + 1) true f
    pure (dsIdx + 2)
  else do
    entryAddDir env.id dsIdx true f
    pure (dsIdx + 1)

/-- The loop over the rules. -/
def programRules (env : SetContext) (shadowOf : RxVlanOperTable → BitVec 16) :
    Nat → Nat → List RxVlanOperTable → Program Gpe Unit
  | _, _, [] => pure ()
  | usIdx, dsIdx, e :: rest => do
      entryAddDir env.id usIdx false e.filter
      if env.dsMode = 0 then
        if shadowOf e = 0 then do
          let dsIdx ← programDs env dsIdx (env.dsFilter e)
          programRules env shadowOf (usIdx + 1) dsIdx rest
        else do
          programShadow (shadowOf e) (env.dsFilter e)
          programRules env shadowOf (usIdx + 1) dsIdx rest
      else programRules env shadowOf (usIdx + 1) dsIdx rest

/-- The shadow tables for the rules as they are now, in place of the recorded ones. -/
def rebuildShadows (env : SetContext) (sorted : List RxVlanOperTable)
    (recorded : List (BitVec 16)) : Program Gpe (List (BitVec 16)) := do
  destroyShadows recorded
  createShadows [] (env.shadowMappers sorted)

def reprogram (env : SetContext) (sorted : List RxVlanOperTable) : Program Gpe Unit := do
  (tableClear env.id env.dsMode).attempt
  programRules env (env.shadowOf sorted) 0 0 sorted

/-- `rx_vlan_oper_table_entry_set`. -/
def tableSet (env : SetContext) (entry : RxVlanOperTable) (def' : Bool)
    (me : ExtVlanMe) (g : Gpe) : OmciError × ExtVlanMe × Gpe :=
  if entry.isDelete then
    match me.oper.list.find? (·.hasKey entry.key) with
    | none => (.invalidVal, me, g)
    | some old =>
        let removed := entryRemove env.id old.idx env.dsMode g
        (if removed.1.isSome then .success else .drv,
          { me with oper := me.oper.remove entry.key }, removed.2)
  else
    let changed := me.oper.set env.vendor entry def'
    if changed.1 = .success then
      let sorted := changed.2.sortArray env.vendor
      let rebuilt := rebuildShadows env sorted me.shadowDs g
      let programmed := reprogram env sorted rebuilt.2
      (if programmed.1.isSome then .success else .drv, ⟨changed.2, rebuilt.1.getD []⟩,
        programmed.2)
    else (changed.1, { me with oper := changed.2 }, g)

end FalconGpon.Vlan
