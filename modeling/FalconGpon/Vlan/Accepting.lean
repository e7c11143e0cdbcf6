/-
# Runs on hardware that accepts every call

When no outcomes are left to come all driver calls succeed, and a program on the tables is a
function of the tables. The equations for the calls on shadow tables are collected here, up to
what the loop over the rules makes of them.
-/

import FalconGpon.Vlan.Programmed

namespace FalconGpon.Vlan

open FalconGpon.Lib Program Vlan.Gpe

namespace Gpe

def Accepting (g : Gpe) : Prop :=
  g.answers = []

def withTable (g : Gpe) (ds : Bool) (id : BitVec 16) : Gpe :=
  if (g.table ds id).isSome then g else g.setTable ds id (some [])

variable {g : Gpe} {ds ds' : Bool} {id id' : BitVec 16} {rules rules' : Option (List GpeEntry)}

theorem setTable_table : (g.setTable ds id rules).table ds' id' =
      if ds' = ds ∧ id' = id then rules else g.table ds' id' :=
  rfl

theorem Accepting.setTable (h : g.Accepting) : (g.setTable ds id rules).Accepting :=
  h

theorem setTable_setTable :
    (g.setTable ds id rules).setTable ds id rules' = g.setTable ds id rules' := by
  rw [Gpe.setTable, Gpe.setTable, Gpe.setTable]
  congr 1
  funext ds' id'
  by_cases hhere : ds' = ds ∧ id' = id
  · rw [if_pos hhere, if_pos hhere]
  · rw [if_neg hhere, if_neg hhere]
    exact if_neg hhere

theorem setTable_self (h : g.table ds id = rules) : g.setTable ds id rules = g := by
  rw [Gpe.setTable]
  congr 1
  funext ds' id'
  by_cases hhere : ds' = ds ∧ id' = id
  · rw [if_pos hhere, hhere.1, hhere.2, h]
  · rw [if_neg hhere]

theorem Accepting.withTable (h : g.Accepting) : (g.withTable ds id).Accepting := by
  rw [Gpe.withTable]
  split
  · exact h
  · exact h.setTable

theorem withTable_table : (g.withTable ds id).table ds' id' =
      if ds' = ds ∧ id' = id then some (g.rules ds id) else g.table ds' id' := by
  rw [withTable, Gpe.rules]
  cases hmapped : g.table ds id with
  | none =>
      rw [if_neg (Option.not_isSome_iff_eq_none.mpr rfl), setTable_table, Option.getD_none]
  | some rules =>
      rw [if_pos Option.isSome_some, Option.getD_some]
      by_cases hhere : ds' = ds ∧ id' = id
      · rw [if_pos hhere, hhere.1, hhere.2, hmapped]
      · rw [if_neg hhere]

end Gpe

section Calls

variable {g : Gpe} {ds : Bool} {id : BitVec 16}

theorem devCtl_accepting (h : g.Accepting) : devCtl g = (some (), g) := by
  rw [devCtl]
  cases g
  cases h
  rfl

theorem extVlanGet_accepting (h : g.Accepting) :
    extVlanGet ds id g = (some (g.rules ds id), g) := by
  rw [extVlanGet, bind_apply (devCtl_accepting h)]
  rfl

theorem extVlanSet_accepting (h : g.Accepting) (rules : List GpeEntry) :
    extVlanSet ds id rules g = (some (), g.setTable ds id (some rules)) := by
  rw [extVlanSet, bind_apply (devCtl_accepting h)]
  rfl

theorem extVlanIdxGet_accepting (h : g.Accepting) :
    extVlanIdxGet id ds g = (some (), g.withTable ds id) := by
  have hread : Program.read g = (some g, g) := rfl
  rw [extVlanIdxGet, bind_apply hread, withTable]
  split
  · rfl
  · have hmodify : Program.modify (fun g : Gpe => g.setTable ds id (some [])) g =
        (some (), g.setTable ds id (some [])) := rfl
    rw [bind_apply (devCtl_accepting h), bind_apply hmodify]
    exact devCtl_accepting h.setTable

theorem extVlanRuleClear_accepting (h : g.Accepting) (hmapped : (g.table ds id).isSome) :
    extVlanRuleClear ds id g = (some (), g.setTable ds id (some [])) := by
  obtain ⟨rules, htable⟩ := Option.isSome_iff_exists.mp hmapped
  have hrules : g.rules ds id = rules := by rw [Gpe.rules, htable, Option.getD_some]
  rw [extVlanRuleClear, bind_apply (extVlanGet_accepting h), hrules]
  by_cases hempty : rules.length = 0
  · have hself : g.setTable ds id (some []) = g :=
      setTable_self (List.eq_nil_of_length_eq_zero hempty ▸ htable)
    rw [if_pos hempty, hself]
    rfl
  · rw [if_neg hempty]
    exact extVlanSet_accepting h []

/-- Destroying a shadow table takes it away. -/
theorem shadowDsDestroy_accepting (h : g.Accepting) (mapper : BitVec 16) :
    shadowDsDestroy mapper g = (some (), g.setTable true mapper none) := by
  have hread : Program.read g = (some g, g) := rfl
  rw [shadowDsDestroy, bind_apply hread]
  by_cases hmapped : (g.table true mapper).isSome
  · have hclear : (extVlanRuleClear true mapper).attempt g =
        (some (), g.setTable true mapper (some [])) := by
      rw [attempt, extVlanRuleClear_accepting h hmapped]
    have hmodify : Program.modify (fun g : Gpe => g.setTable true mapper none)
        (g.setTable true mapper (some [])) = (some (), g.setTable true mapper none) := by
      rw [Program.modify, setTable_setTable]
    rw [if_pos hmapped, bind_apply hclear, bind_apply hmodify, attempt,
      devCtl_accepting h.setTable]
  · rw [if_neg hmapped, setTable_self (Option.not_isSome_iff_eq_none.mp hmapped)]
    rfl

theorem shadowDsCreateAndLink_accepting (h : g.Accepting) {mapper : BitVec 16}
    (hmapper : g.pmapper mapper = true) :
    shadowDsCreateAndLink mapper g = (some (), g.withTable true mapper) := by
  have hread : Program.read (g.withTable true mapper) =
      (some (g.withTable true mapper), g.withTable true mapper) := rfl
  have hstill : (g.withTable true mapper).pmapper mapper = true := by
    rw [withTable]
    split
    · exact hmapper
    · exact hmapper
  rw [shadowDsCreateAndLink, bind_apply (extVlanIdxGet_accepting h), bind_apply hread,
    if_pos hstill]
  exact devCtl_accepting h.withTable

theorem ite_mem_cons {α : Type} {ds : Bool} {id mapper : BitVec 16} {rest : List (BitVec 16)}
    {a a' b : α} (h : ds = true ∧ id = mapper → a' = a) :
    (if ds = true ∧ id ∈ rest then a else if ds = true ∧ id = mapper then a' else b) =
      if ds = true ∧ id ∈ mapper :: rest then a else b := by
  by_cases hrest : ds = true ∧ id ∈ rest
  · rw [if_pos hrest, if_pos ⟨hrest.1, List.mem_cons_of_mem _ hrest.2⟩]
  · rw [if_neg hrest]
    by_cases hhere : ds = true ∧ id = mapper
    · rw [if_pos hhere, if_pos ⟨hhere.1, hhere.2 ▸ List.mem_cons_self⟩, h hhere]
    · rw [if_neg hhere, if_neg]
      intro hin
      rcases List.mem_cons.mp hin.2 with hhead | htail
      · exact hhere ⟨hin.1, hhead⟩
      · exact hrest ⟨hin.1, htail⟩

/-- Destroying the recorded shadow tables. -/
theorem destroyShadows_accepting (h : g.Accepting) (recorded : List (BitVec 16)) :
    ∃ g', destroyShadows recorded g = (some (), g') ∧ g'.Accepting ∧ g'.pmapper = g.pmapper ∧
      ∀ ds id, g'.table ds id = if ds = true ∧ id ∈ recorded then none else g.table ds id := by
  induction recorded generalizing g with
  | nil => exact ⟨g, rfl, h, rfl, fun ds id => (if_neg fun hin => List.not_mem_nil hin.2).symm⟩
  | cons mapper rest ih =>
      have hfirst : (shadowDsDestroy mapper).attempt g =
          (some (), g.setTable true mapper none) := by
        rw [attempt, shadowDsDestroy_accepting h]
      obtain ⟨g', hrun, haccepting, hmappers, htable⟩ := ih (h.setTable)
      refine ⟨g', ?_, haccepting, hmappers, fun ds id => ?_⟩
      · rw [destroyShadows, bind_apply hfirst]
        exact hrun
      · rw [htable, setTable_table]
        exact ite_mem_cons fun _ => rfl

/-- Creating shadow tables while there is room to record them. -/
theorem createShadows_accepting (h : g.Accepting) (mappers recorded : List (BitVec 16))
    (hexist : ∀ m ∈ mappers, g.pmapper m = true)
    (hroom : recorded.length + mappers.length ≤ maxShadowDsTables) :
    ∃ g', createShadows recorded mappers g = (some (recorded ++ mappers), g') ∧ g'.Accepting ∧
      g'.pmapper = g.pmapper ∧
      ∀ ds id, g'.table ds id =
        if ds = true ∧ id ∈ mappers then some (g.rules ds id) else g.table ds id := by
  induction mappers generalizing g recorded with
  | nil =>
      refine ⟨g, ?_, h, rfl, fun ds id => (if_neg fun hin => List.not_mem_nil hin.2).symm⟩
      rw [List.append_nil]
      rfl
  | cons mapper rest ih =>
      have hlink := shadowDsCreateAndLink_accepting h (hexist mapper List.mem_cons_self)
      have hfirst : (shadowDsCreateAndLink mapper).succeeds g =
          (some true, g.withTable true mapper) := by
        change (some (shadowDsCreateAndLink mapper g).1.isSome, (shadowDsCreateAndLink mapper g).2) = _
        rw [hlink]
        rfl
      have hsame : (g.withTable true mapper).pmapper = g.pmapper := by
        rw [withTable]
        split <;> rfl
      rw [List.length_cons] at hroom
      have hwith : (g.withTable true mapper).Accepting := h.withTable
      obtain ⟨g', hrun, haccepting, hmappers, htable⟩ := ih hwith (recorded ++ [mapper])
        (fun m hm => hsame ▸ hexist m (List.mem_cons_of_mem _ hm))
        (by rw [List.length_append, List.length_singleton]; omega)
      have hrecorded : true = true ∧ recorded.length < maxShadowDsTables := ⟨rfl, by omega⟩
      refine ⟨g', ?_, haccepting, hmappers.trans hsame, fun ds id => ?_⟩
      · rw [createShadows, bind_apply hfirst, if_pos hrecorded, hrun, List.append_assoc]
        rfl
      · have hrules : (g.withTable true mapper).rules ds id = g.rules ds id := by
          rw [Gpe.rules, withTable_table]
          split
          · next hhere => rw [Option.getD_some, hhere.1, hhere.2]
          · rw [Gpe.rules]
        rw [htable, hrules, withTable_table]
        exact ite_mem_cons fun hhere => by rw [hhere.1, hhere.2]

/-- Clearing empties both tables. -/
theorem tableClear_accepting (h : g.Accepting) : (tableClear id 0 g) =
      (some (), (g.setTable false id (some [])).setTable true id (some [])) := by
  have hclear : ∀ {ds : Bool} {g : Gpe}, g.Accepting →
      (extVlanRuleClear ds id).attempt (g.withTable ds id) =
        (some (), g.setTable ds id (some [])) := by
    intro ds g h
    have hmapped : ((g.withTable ds id).table ds id).isSome := by
      rw [withTable_table, if_pos ⟨rfl, rfl⟩]
      rfl
    rw [attempt, extVlanRuleClear_accepting h.withTable hmapped, withTable]
    split
    · rfl
    · rw [setTable_setTable]
  rw [tableClear, bind_apply (extVlanIdxGet_accepting h), bind_apply (hclear h), if_pos rfl,
    bind_apply (extVlanIdxGet_accepting h.setTable), hclear h.setTable]

end Calls

def Steady (g g' : Gpe) : Prop :=
  (g.Accepting → g'.Accepting) ∧ g'.pmapper = g.pmapper ∧
    ∀ val ∈ g.custom, val ≠ 0 → val ∈ g'.custom

theorem extVlanCustomUpdate_mono (custom : ExtVlanCustom) (dev : Bool × Bool) (ethertype : Int) :
    ∀ val ∈ custom, val ≠ 0 → val ∈ (extVlanCustomUpdate custom dev ethertype).2 := by
  intro val hval hne
  rw [extVlanCustomUpdate]
  split
  · exact hval
  · split
    · exact hval
    · next new _ =>
        split
        · exact hval
        · split
          · exact hval
          · split
            · next hfree =>
                split
                · obtain ⟨i, hi, hget⟩ := List.getElem_of_mem hval
                  have hslot : custom.idxOf 0 ≠ i := by
                    intro hsame
                    apply hne
                    rw [← hget]
                    simp only [← hsame, List.getElem_idxOf]
                  have hkept : (custom.set (custom.idxOf 0) new)[i]? = some val := by
                    rw [List.getElem?_set_ne hslot, List.getElem?_eq_getElem hi, hget]
                  exact List.mem_of_getElem? hkept
                · exact hval
            · exact hval

/-- An ethertype filter that is accepted is among the ethertypes. -/
theorem extVlanCustomUpdate_success {custom : ExtVlanCustom} {dev : Bool × Bool} {ethertype : Int}
    (h : (extVlanCustomUpdate custom dev ethertype).1 = .success) (hfilter : ethertype ≠ 0) :
    ∃ val, ethertypeVal ethertype = some val ∧
      val ∈ (extVlanCustomUpdate custom dev ethertype).2 := by
  rw [extVlanCustomUpdate, if_neg hfilter] at h ⊢
  cases hval : ethertypeVal ethertype with
  | none =>
      rw [hval] at h
      cases h
  | some val =>
      rw [hval] at h
      refine ⟨val, rfl, ?_⟩
      dsimp only at h ⊢
      split at h
      · cases h
      · next hdev =>
          rw [if_neg hdev]
          split at h
          · next hin =>
              rw [if_pos hin]
              exact hin
          · next hout =>
              rw [if_neg hout]
              split at h
              · next hfree =>
                  rw [if_pos hfree]
                  split at h
                  · next hset =>
                      rw [if_pos hset]
                      exact List.mem_set (List.idxOf_lt_length_of_mem hfree) val
                  · cases h
              · cases h

theorem frame_steady (ds : Bool) (id : BitVec 16) : Frame Steady ds id where
  refl := fun _ => ⟨fun hg => hg, rfl, fun _ hval _ => hval⟩
  trans := fun h h' => ⟨fun hg => h'.1 (h.1 hg), h'.2.1.trans h.2.1,
    fun val hval hne => h'.2.2 val (h.2.2 val hval hne) hne⟩
  devCtl := by
    intro g
    refine ⟨fun hg => ?_, rfl, fun _ hval _ => hval⟩
    rw [devCtl_accepting hg]
    exact hg
  setTable := fun _ _ => ⟨fun hg => hg, rfl, fun _ hval _ => hval⟩
  ruleMapDir := by
    intro ds' omciIdx f g
    refine ⟨fun hg => ?_, rfl, ?_⟩
    · change g.answers.drop 2 = []
      rw [show g.answers = [] from hg, List.drop_nil]
    · intro val hval hne
      have hupdated : ∀ (innerInputTpid : Bool) (action : SceAction) (dev : Bool × Bool),
          val ∈ (ruleMap innerInputTpid action g.custom dev f).custom := by
        intro innerInputTpid action dev
        rw [ruleMap]
        dsimp only
        split
        · exact extVlanCustomUpdate_mono g.custom dev f.filterEthertype val hval hne
        · exact hval
      cases ds' with
      | false => exact hupdated true _ _
      | true => exact hupdated false _ _

def EthertypeKnown (g : Gpe) (f : VlanFilter) : Prop :=
  f.filterEthertype = 0 ∨ ∃ val ∈ g.custom, ethertypeVal f.filterEthertype = some val

section Shadow

variable {g g' : Gpe} {ds : Bool} {id : BitVec 16} {f : VlanFilter} {u : Unit}

theorem ethertypeVal_ne_zero {ethertype : Int} {val : BitVec 16}
    (h : ethertypeVal ethertype = some val) : val ≠ 0 := by
  rw [ethertypeVal.eq_def] at h
  split at h
  all_goals first
    | cases h
      decide
    | cases h

theorem EthertypeKnown.of_steady (h : EthertypeKnown g f) (hsteady : Steady g g') :
    EthertypeKnown g' f := by
  rcases h with hnone | ⟨val, hval, hether⟩
  · exact .inl hnone
  · exact .inr ⟨val, hsteady.2.2 val hval (ethertypeVal_ne_zero hether), hether⟩

theorem ruleMap_ethertypeKnown {innerInputTpid : Bool} {action : SceAction}
    {custom : ExtVlanCustom} {dev : Bool × Bool}
    (h : (ruleMap innerInputTpid action custom dev f).ret = .success)
    (hvalid : (ruleMap innerInputTpid action custom dev f).rule.valid) :
    f.filterEthertype = 0 ∨ ∃ val ∈ (ruleMap innerInputTpid action custom dev f).custom,
      ethertypeVal f.filterEthertype = some val := by
  by_cases hfilter : f.filterEthertype = 0
  · exact .inl hfilter
  · rw [ruleMap] at h hvalid ⊢
    dsimp only at h hvalid ⊢
    rw [if_pos h] at hvalid
    rw [if_pos ⟨hvalid, hfilter⟩] at h ⊢
    obtain ⟨val, hether, hmem⟩ := extVlanCustomUpdate_success h hfilter
    exact .inr ⟨val, hmem, hether⟩

theorem ruleMap_known (innerInputTpid : Bool) (action : SceAction) (hknown : EthertypeKnown g f) :
    (ruleMap innerInputTpid action g.custom (true, true) f).ret = .success ∧
      (ruleMap innerInputTpid action g.custom (true, true) f).rule =
        (ruleTables innerInputTpid action f).1 := by
  have hupdate : (extVlanCustomUpdate g.custom (true, true) f.filterEthertype).1 = .success := by
    rw [extVlanCustomUpdate]
    rcases hknown with hnone | ⟨val, hval, hether⟩
    · rw [if_pos hnone]
    · split
      · rfl
      · rw [hether]
        dsimp only
        rw [if_neg (by decide), if_pos hval]
  have hret : (ruleMap innerInputTpid action g.custom (true, true) f).ret = .success := by
    rw [ruleMap]
    dsimp only
    split
    · exact hupdate
    · rfl
  exact ⟨hret, if_pos hret⟩

/-- Mapping a rule makes its ethertype known. -/
theorem ruleMapDir_ethertypeKnown {omciIdx : Nat} {new : GpeEntry}
    (h : (ruleMapDir ds omciIdx f).Returns g new g') (hvalid : new.1.valid) :
    EthertypeKnown g' f := by
  have hvalue := (Prod.mk.inj h).1
  rw [← (Prod.mk.inj h).2]
  cases ds with
  | false =>
      rw [if_neg Bool.false_ne_true] at hvalue
      split at hvalue
      · next hret =>
          rw [← Option.some.inj hvalue] at hvalid
          exact ruleMap_ethertypeKnown hret hvalid
      · cases hvalue
  | true =>
      rw [if_pos rfl] at hvalue
      split at hvalue
      · next hret =>
          rw [← Option.some.inj hvalue] at hvalid
          exact ruleMap_ethertypeKnown hret hvalid
      · cases hvalue

/-- With a known ethertype a rule is mapped. -/
theorem ruleMapDir_accepting (ds : Bool) (omciIdx : Nat) (h : g.Accepting) (hknown : EthertypeKnown g f) :
    (ruleMapDir ds omciIdx f g).1 = some (dirTables ds omciIdx f) := by
  have hdev : (g.answers.headD true, g.answers.tail.headD true) = (true, true) := by
    rw [show g.answers = [] from h]
    rfl
  rw [ruleMapDir]
  dsimp only
  rw [hdev]
  cases ds with
  | false =>
      obtain ⟨hret, hrule⟩ := ruleMap_known true (sceRow omciIdx).up hknown
      rw [if_neg Bool.false_ne_true, ruleUsMap, if_pos hret, hrule, dirTables,
        if_neg Bool.false_ne_true]
      rfl
  | true =>
      obtain ⟨hret, hrule⟩ := ruleMap_known false (sceRow omciIdx).down hknown
      rw [if_pos rfl, ruleDsMap, if_pos hret, hrule, dirTables, if_pos rfl]
      rfl

/-- A rule that has an image and is added makes its ethertype known. -/
theorem entryAddDir_ethertypeKnown {entryIdx : Nat}
    (h : (entryAddDir id entryIdx ds f).Returns g u g') (himage : image ds f ≠ none) :
    EthertypeKnown g' f := by
  rw [entryAddDir] at h
  split at h
  · exact absurd h not_returns_fail
  · cases hfind : findExtVlanRule f with
    | none =>
        rw [image, hfind] at himage
        exact absurd rfl himage
    | some omciIdx =>
        rw [image, hfind, Option.bind_some] at himage
        rw [hfind] at h
        obtain ⟨_, g₁, -, h⟩ := returns_bind.mp h
        obtain ⟨rules, g₂, -, h⟩ := returns_bind.mp h
        obtain ⟨new, g₃, hmap, h⟩ := returns_bind.mp h
        have hnew := (ruleMapDir_returns hmap).1
        by_cases hvalid : (new.1.valid && new.2.valid) = true
        · rw [if_pos hvalid] at h
          have hset := (frame_steady ds id).extVlanSet (addEntry rules entryIdx new) g₃
          rw [h] at hset
          exact (ruleMapDir_ethertypeKnown hmap (Bool.and_eq_true_iff.mp hvalid).1).of_steady hset
        · rw [← hnew, if_neg hvalid] at himage
          exact absurd rfl himage

/-- A rule for a shadow table goes to its first row. -/
theorem programShadow_accepting (h : g.Accepting) (hknown : image true f ≠ none → EthertypeKnown g f)
    {rules : List GpeEntry} (hmapped : g.table true id = some rules) :
    (programShadow id f g).2.table true id = some (withImage rules 0 (image true f)) := by
  have htable : extVlanIdxGet id true g = (some (), g) := by
    rw [extVlanIdxGet_accepting h, withTable, if_pos (hmapped ▸ Option.isSome_some)]
  have hrules : g.rules true id = rules := by rw [Gpe.rules, hmapped, Option.getD_some]
  rw [programShadow, bind_apply htable]
  cases hfind : findExtVlanRule f with
  | none =>
      rw [image, hfind]
      exact hmapped
  | some omciIdx =>
      change (extVlanRuleAdd true id 0 omciIdx f g).2.table true id = _
      have himage : image true f = if (dirTables true omciIdx f).1.valid &&
          (dirTables true omciIdx f).2.valid then some (dirTables true omciIdx f) else none := by
        rw [image, hfind, Option.bind_some]
      cases hmap : ruleMapDir true omciIdx f g with
      | mk result g₁ =>
          have hsame : g₁.table = g.table := by rw [← (Prod.mk.inj hmap).2]
          have hsteady := (frame_steady true id).ruleMapDir true omciIdx f g
          rw [hmap] at hsteady
          rw [extVlanRuleAdd, bind_apply (extVlanGet_accepting h), hrules]
          cases result with
          | none =>
              have hnone : image true f = none := by
                by_contra hsome
                have hmapped' := ruleMapDir_accepting true omciIdx h (hknown hsome)
                rw [hmap] at hmapped'
                cases hmapped'
              rw [bind_apply_none hmap, hsame, hmapped, hnone]
              rfl
          | some new =>
              have hnew := (ruleMapDir_returns hmap).1
              rw [bind_apply hmap, himage, ← hnew]
              by_cases hvalid : (new.1.valid && new.2.valid) = true
              · rw [if_pos hvalid, if_pos hvalid, extVlanSet_accepting (hsteady.1 h),
                  setTable_table, if_pos ⟨rfl, rfl⟩]
                rfl
              · rw [if_neg hvalid, if_neg hvalid]
                change g₁.table true id = _
                rw [hsame, hmapped]
                rfl

end Shadow

end FalconGpon.Vlan
