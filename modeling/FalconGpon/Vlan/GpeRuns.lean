/-
# What the calls on the rule tables do

Each successful call is described by the rules of all tables after it. A table that is created
on the way is empty, as one that is not there.
-/

import FalconGpon.Vlan.TableSet

namespace FalconGpon.Vlan

open FalconGpon.Lib Program

def dirTables (ds : Bool) (omciIdx : Nat) (f : VlanFilter) : GpeEntry :=
  if ds then ruleTables false (sceRow omciIdx).down f else ruleTables true (sceRow omciIdx).up f

/-- The image of a rule in a table, if it is found and applies to some frame. -/
def image (ds : Bool) (f : VlanFilter) : Option GpeEntry :=
  (findExtVlanRule f).bind fun omciIdx =>
    if (dirTables ds omciIdx f).1.valid && (dirTables ds omciIdx f).2.valid then
      some (dirTables ds omciIdx f)
    else none

namespace Gpe

def OnlyRules (g g' : Gpe) (ds : Bool) (id : BitVec 16) (rules : List GpeEntry) : Prop :=
  g'.rules ds id = rules ∧
    ∀ ds' id', ¬(ds' = ds ∧ id' = id) → g'.rules ds' id' = g.rules ds' id'

def SameRules (g g' : Gpe) : Prop :=
  ∀ ds id, g'.rules ds id = g.rules ds id

variable {g g' g₁ : Gpe} {ds : Bool} {id : BitVec 16} {rules : List GpeEntry}

theorem SameRules.refl (g : Gpe) : SameRules g g :=
  fun _ _ => rfl

theorem SameRules.trans (h : SameRules g g₁) (h' : SameRules g₁ g') : SameRules g g' :=
  fun ds id => (h' ds id).trans (h ds id)

theorem SameRules.onlyRules (h : SameRules g g') : OnlyRules g g' ds id (g.rules ds id) :=
  ⟨h ds id, fun ds' id' _ => h ds' id'⟩

theorem OnlyRules.of_same (h : SameRules g g₁) (h' : OnlyRules g₁ g' ds id rules) :
    OnlyRules g g' ds id rules :=
  ⟨h'.1, fun ds' id' hne => (h'.2 ds' id' hne).trans (h ds' id')⟩

theorem sameRules_of_table_eq (h : g'.table = g.table) : SameRules g g' := by
  intro ds id
  rw [Gpe.rules, h, Gpe.rules]

theorem setTable_onlyRules (g : Gpe) (ds : Bool) (id : BitVec 16) (rules : List GpeEntry) :
    OnlyRules g (g.setTable ds id (some rules)) ds id rules := by
  constructor
  · rw [Gpe.rules, setTable]
    dsimp only
    rw [if_pos ⟨rfl, rfl⟩, Option.getD_some]
  · intro ds' id' hne
    rw [Gpe.rules, setTable]
    dsimp only
    rw [if_neg hne, Gpe.rules]

end Gpe

open Vlan.Gpe

variable {g g' : Gpe} {ds : Bool} {id : BitVec 16} {rules : List GpeEntry} {u : Unit}

theorem devCtl_returns (h : devCtl.Returns g u g') : SameRules g g' := by
  have hstate : g' = { g with answers := g.answers.tail } := (Prod.mk.inj h).2.symm
  rw [hstate]
  exact sameRules_of_table_eq rfl

theorem extVlanGet_returns (h : (extVlanGet ds id).Returns g rules g') :
    rules = g.rules ds id ∧ SameRules g g' := by
  obtain ⟨_, g₁, hctl, h⟩ := returns_bind.mp h
  obtain ⟨g₂, g₃, hread, h⟩ := returns_bind.mp h
  obtain ⟨rfl, rfl⟩ := returns_read.mp hread
  obtain ⟨rfl, rfl⟩ := returns_pure.mp h
  exact ⟨devCtl_returns hctl ds id, devCtl_returns hctl⟩

theorem extVlanSet_returns (h : (extVlanSet ds id rules).Returns g u g') :
    OnlyRules g g' ds id rules := by
  obtain ⟨_, g₁, hctl, h⟩ := returns_bind.mp h
  rw [returns_modify.mp h]
  exact .of_same (devCtl_returns hctl) (setTable_onlyRules g₁ ds id rules)

theorem extVlanIdxGet_returns (hrun : (extVlanIdxGet id ds).Returns g u g') : SameRules g g' := by
  obtain ⟨g₁, g₂, hread, h⟩ := returns_bind.mp hrun
  obtain ⟨rfl, rfl⟩ := returns_read.mp hread
  by_cases hmapped : (g₂.table ds id).isSome
  · rw [if_pos hmapped] at h
    obtain ⟨-, rfl⟩ := returns_pure.mp h
    exact .refl _
  · rw [if_neg hmapped] at h
    obtain ⟨_, g₃, hfree, h⟩ := returns_bind.mp h
    obtain ⟨_, g₄, hmap, h⟩ := returns_bind.mp h
    have hempty : g₃.rules ds id = [] := by
      rw [devCtl_returns hfree ds id, Gpe.rules, Option.not_isSome_iff_eq_none.mp hmapped,
        Option.getD_none]
    have hsame : SameRules g₃ g₄ := by
      rw [returns_modify.mp hmap]
      intro ds' id'
      have honly := setTable_onlyRules g₃ ds id []
      by_cases hhere : ds' = ds ∧ id' = id
      · rw [hhere.1, hhere.2, honly.1, hempty]
      · exact honly.2 ds' id' hhere
    exact ((devCtl_returns hfree).trans hsame).trans (devCtl_returns h)

theorem ruleMapDir_returns {omciIdx : Nat} {f : VlanFilter} {new : GpeEntry}
    (h : (ruleMapDir ds omciIdx f).Returns g new g') :
    new = dirTables ds omciIdx f ∧ SameRules g g' := by
  have hstate := (Prod.mk.inj h).2
  have hvalue := (Prod.mk.inj h).1
  refine ⟨?_, ?_⟩
  · cases ds with
    | false =>
        rw [if_neg Bool.false_ne_true] at hvalue
        split at hvalue
        · next hret =>
            rw [← Option.some.inj hvalue, dirTables, if_neg Bool.false_ne_true, ruleUsMap]
            rw [ruleUsMap] at hret
            exact Prod.ext (if_pos hret) rfl
        · cases hvalue
    | true =>
        rw [if_pos rfl] at hvalue
        split at hvalue
        · next hret =>
            rw [← Option.some.inj hvalue, dirTables, if_pos rfl, ruleDsMap]
            rw [ruleDsMap] at hret
            exact Prod.ext (if_pos hret) rfl
        · cases hvalue
  · rw [← hstate]
    exact sameRules_of_table_eq rfl

def withImage (rules : List GpeEntry) (ruleIdx : Nat) (new : Option GpeEntry) : List GpeEntry :=
  new.elim rules (addEntry rules ruleIdx)

theorem extVlanRuleAdd_returns {ruleIdx omciIdx : Nat} {f : VlanFilter}
    (h : (extVlanRuleAdd ds id ruleIdx omciIdx f).Returns g u g') :
    OnlyRules g g' ds id (withImage (g.rules ds id) ruleIdx
        (if (dirTables ds omciIdx f).1.valid && (dirTables ds omciIdx f).2.valid then
          some (dirTables ds omciIdx f) else none)) := by
  obtain ⟨rules, g₁, hget, h⟩ := returns_bind.mp h
  obtain ⟨new, g₂, hmap, h⟩ := returns_bind.mp h
  obtain ⟨hrules, hsame⟩ := extVlanGet_returns hget
  obtain ⟨hnew, hsame'⟩ := ruleMapDir_returns hmap
  rw [hnew, hrules] at h
  by_cases hvalid : ((dirTables ds omciIdx f).1.valid && (dirTables ds omciIdx f).2.valid) = true
  · rw [if_pos hvalid] at h ⊢
    exact .of_same (hsame.trans hsame') (extVlanSet_returns h)
  · rw [if_neg hvalid] at h ⊢
    obtain ⟨-, rfl⟩ := returns_pure.mp h
    exact (hsame.trans hsame').onlyRules

theorem entryAddDir_returns {entryIdx : Nat} {f : VlanFilter}
    (h : (entryAddDir id entryIdx ds f).Returns g u g') :
    entryIdx < onuGpeMaxVlans ∧
      OnlyRules g g' ds id (withImage (g.rules ds id) entryIdx (image ds f)) := by
  rw [entryAddDir] at h
  by_cases hidx : onuGpeMaxVlans ≤ entryIdx
  · rw [if_pos hidx] at h
    exact absurd h not_returns_fail
  · rw [if_neg hidx] at h
    refine ⟨Nat.not_le.mp hidx, ?_⟩
    rw [image]
    cases hfind : findExtVlanRule f with
    | none =>
        rw [hfind] at h
        obtain ⟨-, rfl⟩ := returns_pure.mp h
        exact (SameRules.refl _).onlyRules
    | some omciIdx =>
        rw [hfind] at h
        obtain ⟨_, g₁, hget, h⟩ := returns_bind.mp h
        have hsame := extVlanIdxGet_returns hget
        have hadd := extVlanRuleAdd_returns h
        rw [hsame ds id] at hadd
        exact .of_same hsame hadd

theorem ruleDelete_returns {ruleIdx : Nat} (h : (ruleDelete ds id ruleIdx).Returns g u g') :
    OnlyRules g g' ds id ((g.rules ds id).eraseIdx ruleIdx) := by
  obtain ⟨rules, g₁, hget, h⟩ := returns_bind.mp h
  obtain ⟨hrules, hsame⟩ := extVlanGet_returns hget
  rw [← hrules]
  by_cases hempty : rules.length = 0
  · rw [if_pos hempty] at h
    obtain ⟨-, rfl⟩ := returns_pure.mp h
    rw [List.eraseIdx_of_length_le (hempty ▸ Nat.zero_le ruleIdx), hrules]
    exact hsame.onlyRules
  · rw [if_neg hempty] at h
    by_cases hbeyond : rules.length ≤ ruleIdx
    · rw [if_pos hbeyond] at h
      obtain ⟨-, rfl⟩ := returns_pure.mp h
      rw [List.eraseIdx_of_length_le hbeyond, hrules]
      exact hsame.onlyRules
    · rw [if_neg hbeyond] at h
      by_cases hfull : onuGpeMaxVlans ≤ rules.length
      · rw [if_pos hfull] at h
        exact absurd h not_returns_fail
      · rw [if_neg hfull] at h
        exact .of_same hsame (extVlanSet_returns h)

/-- A delete takes the rules with one index out of the tables. -/
theorem entryRemove_returns {entryIdx : Nat} {dsMode : BitVec 8}
    (h : (entryRemove id entryIdx dsMode).Returns g u g') :
    g'.rules false id = (g.rules false id).eraseIdx entryIdx ∧
      (dsMode = 0 → g'.rules true id = (g.rules true id).eraseIdx entryIdx) := by
  rw [entryRemove] at h
  by_cases hidx : onuGpeMaxVlans ≤ entryIdx
  · rw [if_pos hidx] at h
    exact absurd h not_returns_fail
  · rw [if_neg hidx] at h
    obtain ⟨_, g₁, hget, h⟩ := returns_bind.mp h
    obtain ⟨_, g₂, hdelete, h⟩ := returns_bind.mp h
    have hsame := extVlanIdxGet_returns hget
    have honly := ruleDelete_returns hdelete
    have hus : g₂.rules false id = (g.rules false id).eraseIdx entryIdx := by
      rw [honly.1, hsame]
    have hds : g₂.rules true id = g.rules true id := by
      rw [honly.2 true id fun hboth => Bool.noConfusion hboth.1, hsame]
    by_cases hmode : dsMode = 0
    · rw [if_pos hmode] at h
      obtain ⟨_, g₃, hget', h⟩ := returns_bind.mp h
      have hsame' := extVlanIdxGet_returns hget'
      have honly' := ruleDelete_returns h
      refine ⟨?_, fun _ => ?_⟩
      · rw [honly'.2 false id fun hboth => Bool.noConfusion hboth.1, hsame', hus]
      · rw [honly'.1, hsame', hds]
    · rw [if_neg hmode] at h
      obtain ⟨-, rfl⟩ := returns_pure.mp h
      exact ⟨hus, fun hzero => absurd hzero hmode⟩

theorem iopDsEntryAdd_returns {entryIdx : Nat} (h : (iopDsEntryAdd id entryIdx).Returns g u g')
    (hlength : (g.rules true id).length ≤ entryIdx) :
    entryIdx < onuGpeMaxVlans ∧
      OnlyRules g g' true id (g.rules true id ++ [iopDsEntry]) := by
  rw [iopDsEntryAdd] at h
  by_cases hidx : onuGpeMaxVlans ≤ entryIdx
  · rw [if_pos hidx] at h
    exact absurd h not_returns_fail
  · rw [if_neg hidx] at h
    refine ⟨Nat.not_le.mp hidx, ?_⟩
    obtain ⟨_, g₁, hget, h⟩ := returns_bind.mp h
    obtain ⟨rules, g₂, hread, h⟩ := returns_bind.mp h
    have hsame := extVlanIdxGet_returns hget
    obtain ⟨hrules, hsame'⟩ := extVlanGet_returns hread
    rw [hsame true id] at hrules
    rw [hrules, if_neg (Nat.not_lt.mpr hlength), if_neg (by omega)] at h
    exact .of_same (hsame.trans hsame') (extVlanSet_returns h)

end FalconGpon.Vlan
