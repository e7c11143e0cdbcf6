/-
# The VLAN rule tables of the hardware

An Extended VLAN ME has a table of rules for each direction. They are found under the id of
the ME in one mapper for each direction; a downstream table may also be kept under the id of a
mapper ME. The table is read and written as a whole, in two driver calls.

The outcomes of the driver calls to come are part of the state; when they are used up, all
calls succeed.
-/

import FalconGpon.Lib.Program
import FalconGpon.Vlan.OperList

namespace FalconGpon.Vlan

open FalconGpon.Lib
open FalconGpon.Api (OmciApiReturn)

/-- `ONU_GPE_MAX_VLANS`. -/
def onuGpeMaxVlans : Nat :=
  64

abbrev GpeEntry :=
  GpeVlanRuleTable × GpeVlanTreatmentTable

/-- The hardware, as far as VLAN rules are concerned. -/
structure Gpe where
  /-- The valid rules of the table mapped to an id; the flag says downstream. -/
  table : Bool → BitVec 16 → Option (List GpeEntry)
  custom : ExtVlanCustom
  /-- The mapper MEs that exist. -/
  pmapper : BitVec 16 → Bool
  /-- The outcomes of the next driver calls. -/
  answers : List Bool

namespace Gpe

def rules (g : Gpe) (ds : Bool) (id : BitVec 16) : List GpeEntry :=
  (g.table ds id).getD []

def setTable (g : Gpe) (ds : Bool) (id : BitVec 16) (rules : Option (List GpeEntry)) : Gpe :=
  { g with table := fun ds' id' => if ds' = ds ∧ id' = id then rules else g.table ds' id' }

end Gpe

/-- `dev_ctl`. -/
def devCtl : Program Gpe Unit :=
  fun g => (if g.answers.headD true then some () else none, { g with answers := g.answers.tail })

/-- `FIO_GPE_EXT_VLAN_GET`. -/
def extVlanGet (ds : Bool) (id : BitVec 16) : Program Gpe (List GpeEntry) := do
  devCtl
  let g ← Program.read
  pure (g.rules ds id)

/-- `FIO_GPE_EXT_VLAN_SET`. -/
def extVlanSet (ds : Bool) (id : BitVec 16) (rules : List GpeEntry) : Program Gpe Unit := do
  devCtl
  Program.modify fun g => g.setTable ds id (some rules)

/-- `ext_vlan_idx_get` without multicast: the table of the id, or a new one. The id is mapped
before the table is created. -/
def extVlanIdxGet (id : BitVec 16) (ds : Bool) : Program Gpe Unit := do
  let g ← Program.read
  if (g.table ds id).isSome then pure ()
  else do
    devCtl
    Program.modify fun g => g.setTable ds id (some [])
    devCtl

/-- `rule_delete`. -/
def ruleDelete (ds : Bool) (id : BitVec 16) (ruleIdx : Nat) : Program Gpe Unit := do
  let rules ← extVlanGet ds id
  if rules.length = 0 then pure ()
  else if rules.length ≤ ruleIdx then pure ()
  else if onuGpeMaxVlans ≤ rules.length then Program.fail
  else extVlanSet ds id (rules.eraseIdx ruleIdx)

/-- `ext_vlan_rule_clear`. -/
def extVlanRuleClear (ds : Bool) (id : BitVec 16) : Program Gpe Unit := do
  let rules ← extVlanGet ds id
  if rules.length = 0 then pure () else extVlanSet ds id []

/-- `omci_api_rule_ds_map` or `omci_api_rule_us_map`, with at most two driver calls. -/
def ruleMapDir (ds : Bool) (omciIdx : Nat) (f : VlanFilter) : Program Gpe GpeEntry :=
  fun g =>
    let dev := (g.answers.headD true, g.answers.tail.headD true)
    let mapped :=
      if ds then ruleDsMap omciIdx g.custom dev f else ruleUsMap omciIdx g.custom dev f
    (if mapped.ret = .success then some (mapped.rule, mapped.treatment) else none,
      { g with custom := mapped.custom, answers := g.answers.drop 2 })

def GpeVlanRuleTable.sameDefault (new old : GpeVlanRuleTable) : Bool :=
  old.valid && old.twoEnable == new.twoEnable && old.oneEnable == new.oneEnable &&
    old.zeroEnable == new.zeroEnable && old.def'

/-- What `ext_vlan_rule_add` makes of the rules it has read. -/
def addEntry (rules : List GpeEntry) (ruleIdx : Nat) (new : GpeEntry) : List GpeEntry :=
  if new.1.def' ∧ rules.any (new.1.sameDefault ·.1) then
    -- don't rewrite existing default rule
    rules
  else if ruleIdx < rules.length then
    if ruleIdx < onuGpeMaxVlans then rules.set ruleIdx new else rules
  else if rules.length < onuGpeMaxVlans then rules ++ [new]
  else rules

/-- `ext_vlan_rule_add`. -/
def extVlanRuleAdd (ds : Bool) (id : BitVec 16) (ruleIdx omciIdx : Nat) (f : VlanFilter) :
    Program Gpe Unit := do
  let rules ← extVlanGet ds id
  let new ← ruleMapDir ds omciIdx f
  if new.1.valid && new.2.valid then extVlanSet ds id (addEntry rules ruleIdx new)
  else pure ()

/-- `omci_api_extended_vlan_config_data_tag_oper_table_entry_add_dir`. -/
def entryAddDir (id : BitVec 16) (entryIdx : Nat) (ds : Bool) (f : VlanFilter) : Program Gpe Unit :=
  if onuGpeMaxVlans ≤ entryIdx then Program.fail
  else
    match findExtVlanRule f with
    | none => pure ()
    | some omciIdx => do
        extVlanIdxGet id ds
        extVlanRuleAdd ds id entryIdx omciIdx f

/-- The pass-through rule for priority-tagged frames. -/
def iopDsEntry : GpeEntry :=
  ({ outerDeFilter := false, outerDeEnable := false, outerInputTpidEnable := false
     outerVidFilter := 0, outerVidEnable := true
     outerPriorityFilter := 0, outerPriorityEnable := false
     twoEnable := false, oneEnable := true, zeroEnable := false
     valid := true, def' := false, ethertypeFilterEnable := 0
     innerDeFilter := false, innerDeEnable := false, innerInputTpidEnable := false
     innerVidFilter := 0, innerVidEnable := false
     innerPriorityFilter := 0, innerPriorityEnable := false },
   { tagbTpidTreatment := 0, tagbVidTreatment := 0, tagbTreatment := 15, valid := true
     innerNotGenerate := true, outerNotGenerate := true, discardEnable := false
     tagaTpidTreatment := 0, tagaVidTreatment := 0, tagaTreatment := 15 })

/-- `omci_api_extended_vlan_config_data_iop_ds_entry_add`. -/
def iopDsEntryAdd (id : BitVec 16) (entryIdx : Nat) : Program Gpe Unit :=
  if onuGpeMaxVlans ≤ entryIdx then Program.fail
  else do
    extVlanIdxGet id true
    let rules ← extVlanGet true id
    if entryIdx < rules.length then extVlanSet true id (rules.set entryIdx iopDsEntry)
    else if onuGpeMaxVlans ≤ rules.length then Program.fail
    else extVlanSet true id (rules ++ [iopDsEntry])

/-- `omci_api_extended_vlan_config_data_tag_oper_table_entry_remove`. -/
def entryRemove (id : BitVec 16) (entryIdx : Nat) (dsMode : BitVec 8) : Program Gpe Unit :=
  if onuGpeMaxVlans ≤ entryIdx then Program.fail
  else do
    extVlanIdxGet id false
    ruleDelete false id entryIdx
    if dsMode = 0 then do
      extVlanIdxGet id true
      ruleDelete true id entryIdx
    else pure ()

/-- `omci_api_extended_vlan_config_data_tag_oper_table_clear`. -/
def tableClear (id : BitVec 16) (dsMode : BitVec 8) : Program Gpe Unit := do
  extVlanIdxGet id false
  (extVlanRuleClear false id).attempt
  if dsMode = 0 then do
    extVlanIdxGet id true
    (extVlanRuleClear true id).attempt
  else pure ()

/-- `ext_vlan_shadow_ds_create_and_link`: a downstream table under the id of a mapper ME, linked
to the GEM ports of the mapper. -/
def shadowDsCreateAndLink (mapperMeId : BitVec 16) : Program Gpe Unit := do
  extVlanIdxGet mapperMeId true
  let g ← Program.read
  if g.pmapper mapperMeId then devCtl else Program.fail

/-- `ext_vlan_shadow_ds_destroy`: the mapping goes, whatever the driver answers. -/
def shadowDsDestroy (mapperMeId : BitVec 16) : Program Gpe Unit := do
  let g ← Program.read
  if (g.table true mapperMeId).isSome then do
    (extVlanRuleClear true mapperMeId).attempt
    Program.modify fun g => g.setTable true mapperMeId none
    devCtl.attempt
  else pure ()

end FalconGpon.Vlan
