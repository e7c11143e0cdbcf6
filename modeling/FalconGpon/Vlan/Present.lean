/-
# The rules that reach the hardware

A successful SET programs the rules of the ME one after the other. A rule that no row of the
translation table matches, or that several match, is passed over without an error, and so is a
default rule behind another one for the same numbers of tags. `nothingDropped_iff`: the tables
have all rules exactly if there is none of these; downstream, rules that are split off must also
have the image of one that is not.
-/

import FalconGpon.Vlan.OperListSound
import FalconGpon.Vlan.Programmed
import FalconGpon.Vlan.Translation

namespace FalconGpon.Vlan

open FalconGpon.Lib Program Vlan.Gpe
open FalconGpon.Omci (OmciError)

/-- Row `n` of the translation table describes the rule. -/
def VlanFilter.DescribedBy (f : VlanFilter) (n : Nat) : Prop :=
  ∃ row, omciRules[n]? = some row ∧ row.Matches f

/-- Every rule is described by one row, and the tables of the ME have its translation by that
row; downstream, if it applies to any frames. -/
structure NothingDropped (env : SetContext) (rules : List RxVlanOperTable) (g : Gpe) : Prop where
  translated : ∀ e ∈ rules, ∃ n, e.filter.DescribedBy n
  unique : ∀ e ∈ rules, ∀ n m, e.filter.DescribedBy n → e.filter.DescribedBy m → n = m
  upstream : ∀ e ∈ rules, ∀ n, e.filter.DescribedBy n →
    dirTables false n e.filter ∈ g.rules false env.id
  dsUnique : env.dsMode = 0 → ∀ e ∈ rules, ∀ n m,
    (env.dsFilter e).DescribedBy n → (env.dsFilter e).DescribedBy m → n = m
  downstream : env.dsMode = 0 → ∀ e ∈ rules, ∀ n, (env.dsFilter e).DescribedBy n →
    (dirTables true n (env.dsFilter e)).1.valid →
      dirTables true n (env.dsFilter e) ∈ g.rules true env.id

def OneDefault (images : List GpeEntry) : Prop :=
  ∀ new ∈ images, ∀ old ∈ images, SameDefault new old → new = old

/-- The rules of the ME, and the file for the split, are such that the tables can take all of
them. -/
structure AllProgrammable (env : SetContext) (sorted : List RxVlanOperTable) : Prop where
  described : ∀ e ∈ sorted, (∃ row ∈ omciRules, row.Matches e.filter) ∧ ¬e.filter.Ambiguous
  oneDefault : OneDefault (usImages sorted)
  dsDescribed : env.dsMode = 0 → ∀ e ∈ sorted, ¬(env.dsFilter e).Ambiguous
  dsOneDefault : env.dsMode = 0 → OneDefault (dsImages env (env.shadowOf sorted) sorted)
  dsSplit : env.dsMode = 0 → ∀ e ∈ sorted, ∀ new, image true (env.dsFilter e) = some new →
    new ∈ dsImages env (env.shadowOf sorted) sorted

/-- Clearing, which comes before the rules are programmed, has emptied the tables. -/
def Cleared (env : SetContext) (sorted : List RxVlanOperTable) (recorded : List (BitVec 16))
    (g : Gpe) : Prop :=
  let cleared := (tableClear env.id env.dsMode (rebuildShadows env sorted recorded g).2).2
  cleared.rules false env.id = [] ∧ (env.dsMode = 0 → cleared.rules true env.id = [])

section Rows

variable {f : VlanFilter} {n : Nat}

theorem findExtVlanRule_eq_some_iff_describedBy :
    findExtVlanRule f = some n ↔ f.DescribedBy n ∧ ∀ m, f.DescribedBy m → m = n := by
  rw [findExtVlanRule_eq_some_iff]
  apply and_congr Iff.rfl
  exact ⟨fun h m hm => hm.elim fun row hrow => h m row hrow.1 hrow.2,
    fun h m row hrow hmatch => h m ⟨row, hrow, hmatch⟩⟩

theorem exists_describedBy_iff : (∃ n, f.DescribedBy n) ↔ ∃ row ∈ omciRules, row.Matches f := by
  constructor
  · intro h
    obtain ⟨n, row, hrow, hmatch⟩ := h
    exact ⟨row, List.mem_of_getElem? hrow, hmatch⟩
  · intro h
    obtain ⟨row, hmem, hmatch⟩ := h
    obtain ⟨n, hrow⟩ := List.getElem?_of_mem hmem
    exact ⟨n, row, hrow, hmatch⟩

/-- Several rows describe a rule exactly if it is ambiguous. -/
theorem describedBy_unique_iff :
    (∀ n m, f.DescribedBy n → f.DescribedBy m → n = m) ↔ ¬f.Ambiguous := by
  constructor
  · intro hunique hambiguous
    obtain ⟨k, hk, row, hrow, hmatch⟩ : ∃ k, (k = 14 ∨ k = 21) ∧
        ∃ row, omciRules[k]? = some row ∧ row.Matches f :=
      hambiguous.elim (fun h => ⟨14, .inl rfl, h⟩) fun h => ⟨21, .inr rfl, h⟩
    have hnext := matches_pair hk hrow hmatch
    have hsame := hunique k (k + 1) ⟨row, hrow, hmatch⟩ hnext
    exact absurd hsame (Nat.ne_of_lt (Nat.lt_succ_self k))
  · intro hclear n m hn hm
    obtain ⟨row, hrow, hmatch⟩ := hn
    obtain ⟨k, hk⟩ := exists_findExtVlanRule_iff.mpr
      ⟨⟨row, List.mem_of_getElem? hrow, hmatch⟩, hclear⟩
    have hk := (findExtVlanRule_eq_some_iff_describedBy.mp hk).2
    exact (hk n ⟨row, hrow, hmatch⟩).trans (hk m hm).symm

theorem dirTables_valid {ds : Bool} : (dirTables ds n f).2.valid = (dirTables ds n f).1.valid := by
  cases ds <;> rfl

theorem image_eq_some_iff {ds : Bool} {new : GpeEntry} :
    image ds f = some new ↔
      ∃ n, findExtVlanRule f = some n ∧ (dirTables ds n f).1.valid ∧
        dirTables ds n f = new := by
  rw [image, Option.bind_eq_some_iff]
  apply exists_congr
  intro n
  apply and_congr Iff.rfl
  rw [dirTables_valid, Bool.and_self]
  split
  · next hvalid => exact Option.some_inj.trans (and_iff_right hvalid).symm
  · next hvalid => exact ⟨(fun h => by cases h), fun h => absurd h.1 hvalid⟩

theorem upstream_valid (e : RxVlanOperTable) (hfind : findExtVlanRule e.filter = some n) :
    (dirTables false n e.filter).1.valid = true := by
  obtain ⟨hn, -, h14, h16, h21⟩ := found_row hfind e.filter_inRange
  exact (upRow n hn h14 h16 h21).applies

end Rows

section Tables

variable {env : SetContext} {sorted : List RxVlanOperTable} {me : ExtVlanMe} {g g' : Gpe}

theorem image_of_describedBy {ds : Bool} {f : VlanFilter} {n : Nat}
    (hunique : ∀ n m, f.DescribedBy n → f.DescribedBy m → n = m) (hn : f.DescribedBy n)
    (hvalid : (dirTables ds n f).1.valid) : image ds f = some (dirTables ds n f) :=
  image_eq_some_iff.mpr
    ⟨n, findExtVlanRule_eq_some_iff_describedBy.mpr ⟨hn, fun m hm => hunique m n hm hn⟩,
      hvalid, rfl⟩

theorem image_of_mem_dsImages {shadowOf : RxVlanOperTable → BitVec 16} {new : GpeEntry}
    (h : new ∈ dsImages env shadowOf sorted) :
    new = iopDsEntry ∨ ∃ e ∈ sorted, image true (env.dsFilter e) = some new := by
  obtain ⟨e, he, hnew⟩ := List.mem_flatMap.mp h
  split at hnew
  · rcases List.mem_append.mp hnew with hpass | himage
    · split at hpass
      · exact .inl (List.mem_singleton.mp hpass)
      · exact absurd hpass List.not_mem_nil
    · exact .inr ⟨e, he, Option.mem_toList.mp himage⟩
  · exact absurd hnew List.not_mem_nil

theorem NothingDropped.of_perm {rules rules' : List RxVlanOperTable}
    (hperm : rules.Perm rules') (h : NothingDropped env rules g) : NothingDropped env rules' g where
  translated := fun e he => h.translated e (hperm.mem_iff.mpr he)
  unique := fun e he => h.unique e (hperm.mem_iff.mpr he)
  upstream := fun e he => h.upstream e (hperm.mem_iff.mpr he)
  dsUnique := fun hmode e he => h.dsUnique hmode e (hperm.mem_iff.mpr he)
  downstream := fun hmode e he => h.downstream hmode e (hperm.mem_iff.mpr he)

theorem oneDefault_usImages_iff :
    OneDefault (usImages sorted) ↔
      ∀ new ∈ usImages sorted, new ∈ keepFirst SameDefault (usImages sorted) :=
  (forall_mem_keepFirst_iff fun _ hnew _ _ hsame => hsame.symm (usImages_valid hnew)).symm

theorem oneDefault_dsImages_iff {shadowOf : RxVlanOperTable → BitVec 16} :
    OneDefault (dsImages env shadowOf sorted) ↔
      ∀ new ∈ dsImages env shadowOf sorted,
        new ∈ keepFirst SameDefault (dsImages env shadowOf sorted) :=
  (forall_mem_keepFirst_iff fun _ hnew _ _ hsame => hsame.symm (dsImages_valid hnew)).symm

theorem iopDsEntry_mem_keepFirst {images : List GpeEntry} (h : iopDsEntry ∈ images) :
    iopDsEntry ∈ keepFirst SameDefault images :=
  (mem_keepFirst_or h).elim id fun hblocked =>
    hblocked.elim fun _ hold => absurd hold.2.1 Bool.false_ne_true

theorem NothingDropped.allProgrammable (h : NothingDropped env sorted g)
    (hus : g.rules false env.id = keepFirst SameDefault (usImages sorted))
    (hds : env.dsMode = 0 → g.rules true env.id =
      keepFirst SameDefault (dsImages env (env.shadowOf sorted) sorted)) :
    AllProgrammable env sorted where
  described := fun e he =>
    ⟨exists_describedBy_iff.mp (h.translated e he), describedBy_unique_iff.mp (h.unique e he)⟩
  oneDefault := by
    apply oneDefault_usImages_iff.mpr
    intro new hnew
    obtain ⟨e, he, himage⟩ := mem_usImages.mp hnew
    obtain ⟨n, hfind, -, hrow⟩ := image_eq_some_iff.mp himage
    have hmem := h.upstream e he n (findExtVlanRule_eq_some_iff_describedBy.mp hfind).1
    rwa [hrow, hus] at hmem
  dsDescribed := fun hmode e he => describedBy_unique_iff.mp (h.dsUnique hmode e he)
  dsOneDefault := by
    intro hmode
    apply oneDefault_dsImages_iff.mpr
    intro new hnew
    rcases image_of_mem_dsImages hnew with hpass | ⟨e, he, himage⟩
    · rw [hpass] at hnew ⊢
      exact iopDsEntry_mem_keepFirst hnew
    · obtain ⟨n, hfind, hvalid, hrow⟩ := image_eq_some_iff.mp himage
      have hmem := h.downstream hmode e he n
        (findExtVlanRule_eq_some_iff_describedBy.mp hfind).1 hvalid
      rwa [hrow, hds hmode] at hmem
  dsSplit := by
    intro hmode e he new himage
    obtain ⟨n, hfind, hvalid, hrow⟩ := image_eq_some_iff.mp himage
    have hmem := h.downstream hmode e he n
      (findExtVlanRule_eq_some_iff_describedBy.mp hfind).1 hvalid
    rw [hrow, hds hmode] at hmem
    exact keepFirst_subset hmem

theorem AllProgrammable.nothingDropped (h : AllProgrammable env sorted)
    (hus : g.rules false env.id = keepFirst SameDefault (usImages sorted))
    (hds : env.dsMode = 0 → g.rules true env.id =
      keepFirst SameDefault (dsImages env (env.shadowOf sorted) sorted)) :
    NothingDropped env sorted g where
  translated := fun e he => exists_describedBy_iff.mpr (h.described e he).1
  unique := fun e he => describedBy_unique_iff.mpr (h.described e he).2
  upstream := by
    intro e he n hn
    have hunique := describedBy_unique_iff.mpr (h.described e he).2
    have hfind := findExtVlanRule_eq_some_iff_describedBy.mpr
      ⟨hn, fun m hm => hunique m n hm hn⟩
    have himage := image_of_describedBy hunique hn (upstream_valid e hfind)
    rw [hus]
    exact oneDefault_usImages_iff.mp h.oneDefault _ (mem_usImages.mpr ⟨e, he, himage⟩)
  dsUnique := fun hmode e he => describedBy_unique_iff.mpr (h.dsDescribed hmode e he)
  downstream := by
    intro hmode e he n hn hvalid
    have hunique := describedBy_unique_iff.mpr (h.dsDescribed hmode e he)
    have himage := image_of_describedBy hunique hn hvalid
    rw [hds hmode]
    exact oneDefault_dsImages_iff.mp (h.dsOneDefault hmode) _ (h.dsSplit hmode e he _ himage)

end Tables

def SetContext.rulesAfter (env : SetContext) (entry : RxVlanOperTable) (def' : Bool)
    (me : ExtVlanMe) : List RxVlanOperTable :=
  (me.oper.set env.vendor entry def').2.sortArray env.vendor

section Set

variable {env : SetContext} {entry : RxVlanOperTable} {def' : Bool} {me : ExtVlanMe} {g : Gpe}

/-- A rule is set successfully: the list has it, and the loop over the rules succeeds. -/
theorem tableSet_success (hnew : entry.isDelete = false)
    (hset : (tableSet env entry def' me g).1 = .success) :
    (tableSet env entry def' me g).2.1 = ⟨(me.oper.set env.vendor entry def').2,
        (rebuildShadows env (env.rulesAfter entry def' me) me.shadowDs g).1.getD []⟩ ∧
      (reprogram env (env.rulesAfter entry def' me)).Returns
        (rebuildShadows env (env.rulesAfter entry def' me) me.shadowDs g).2 ()
        (tableSet env entry def' me g).2.2 := by
  rw [tableSet, if_neg (Bool.eq_false_iff.mp hnew)] at hset ⊢
  by_cases hlist : (me.oper.set env.vendor entry def').1 = .success
  · simp only [if_pos hlist] at hset ⊢
    refine ⟨rfl, returns_of_isSome ?_⟩
    by_contra hfail
    rw [SetContext.rulesAfter] at hfail
    rw [if_neg hfail] at hset
    cases hset
  · simp only [if_neg hlist] at hset
    exact absurd hset hlist

/-- After clearing, a successful loop leaves the first default rules among the images. -/
theorem reprogram_returns {sorted : List RxVlanOperTable} {recorded : List (BitVec 16)} {g' : Gpe}
    (h : (reprogram env sorted).Returns (rebuildShadows env sorted recorded g).2 () g')
    (hclear : Cleared env sorted recorded g)
    (hown : ∀ e ∈ sorted, env.shadowOf sorted e = 0 ∨ env.shadowOf sorted e ≠ env.id) :
    g'.rules false env.id = keepFirst SameDefault (usImages sorted) ∧
      (env.dsMode = 0 → g'.rules true env.id =
        keepFirst SameDefault (dsImages env (env.shadowOf sorted) sorted)) := by
  obtain ⟨_, g₁, hcleared, h⟩ := returns_bind.mp h
  have hstate := returns_attempt.mp hcleared
  have hus : g₁.rules false env.id = [] := hstate ▸ hclear.1
  have hds : env.dsMode = 0 → g₁.rules true env.id = [] :=
    fun hmode => hstate ▸ hclear.2 hmode
  obtain ⟨hfinalUs, hfinalDs⟩ := programRules_returns h hown (hus ▸ Nat.le_refl 0)
    fun hmode => hds hmode ▸ Nat.le_refl 0
  refine ⟨?_, fun hmode => ?_⟩
  · rw [hfinalUs, hus, foldl_usStep]
  · rw [hfinalDs hmode, hds hmode, foldl_dsStep]

/-- After a rule was set, all rules are in the tables exactly if they can be programmed. -/
theorem nothingDropped_iff (hnew : entry.isDelete = false)
    (hset : (tableSet env entry def' me g).1 = .success)
    (hclear : Cleared env (env.rulesAfter entry def' me) me.shadowDs g)
    (hown : ∀ e ∈ env.rulesAfter entry def' me,
      env.shadowOf (env.rulesAfter entry def' me) e = 0 ∨
        env.shadowOf (env.rulesAfter entry def' me) e ≠ env.id) :
    NothingDropped env ((tableSet env entry def' me g).2.1.oper.list.map (·.data))
        (tableSet env entry def' me g).2.2 ↔
      AllProgrammable env (env.rulesAfter entry def' me) := by
  obtain ⟨hme, hloop⟩ := tableSet_success hnew hset
  obtain ⟨hus, hds⟩ := reprogram_returns hloop hclear hown
  have hperm : (env.rulesAfter entry def' me).Perm
      ((tableSet env entry def' me g).2.1.oper.list.map (·.data)) := by
    rw [hme]
    exact OperList.sortArray_perm env.vendor _
  exact ⟨fun h => (h.of_perm hperm.symm).allProgrammable hus hds,
    fun h => (h.nothingDropped hus hds).of_perm hperm⟩

end Set

def Gpe.fresh : Gpe :=
  ⟨fun _ _ => none, [0, 0, 0, 0, 0], fun _ => false, []⟩

def SetContext.plain (vendor : OltVendorType) (dsMode : BitVec 8) : SetContext :=
  ⟨vendor, false, dsMode, 1, none, fun _ _ => 0⟩

def translateTag : RxVlanOperTable :=
  ⟨15, 4096, 0, 0, 8, 5, 0, 0, 0, 1, 0, 15, 0, 0, 0, 0, 7, 6⟩

theorem nothingDropped_iff_translateTag :
    NothingDropped (.plain .hwtc 0)
        ((tableSet (.plain .hwtc 0) translateTag false ⟨.init, []⟩ .fresh).2.1.oper.list.map
          (·.data)) (tableSet (.plain .hwtc 0) translateTag false ⟨.init, []⟩ .fresh).2.2 ↔
      AllProgrammable (.plain .hwtc 0)
        ((SetContext.plain .hwtc 0).rulesAfter translateTag false ⟨.init, []⟩) :=
  nothingDropped_iff (by decide) (by decide +kernel) ⟨by decide +kernel, fun _ => by decide +kernel⟩
    (by decide +kernel)

def dropSingleTagged : RxVlanOperTable :=
  ⟨15, 4096, 0, 0, 8, 4096, 4, 0, 0, 3, 0, 15, 4096, 0, 0, 15, 4096, 0⟩

/-- The rule that drops single-tagged frames matches two rows; it is passed over and the SET
succeeds. -/
theorem not_nothingDropped :
    ¬∀ (env : SetContext) (entry : RxVlanOperTable) (def' : Bool) (me : ExtVlanMe) (g : Gpe),
      entry.isDelete = false → (tableSet env entry def' me g).1 = .success →
      Cleared env (env.rulesAfter entry def' me) me.shadowDs g →
      (∀ e ∈ env.rulesAfter entry def' me,
        env.shadowOf (env.rulesAfter entry def' me) e = 0 ∨
          env.shadowOf (env.rulesAfter entry def' me) e ≠ env.id) →
      NothingDropped env ((tableSet env entry def' me g).2.1.oper.list.map (·.data))
        (tableSet env entry def' me g).2.2 := by
  intro h
  have hall := h (.plain .hwtc 0) dropSingleTagged false ⟨.init, []⟩ .fresh (by decide) (by decide)
    ⟨by decide, fun _ => by decide⟩ (by decide)
  have hmem : dropSingleTagged ∈ (tableSet (.plain .hwtc 0) dropSingleTagged false ⟨.init, []⟩
      .fresh).2.1.oper.list.map (·.data) := by decide
  have hsame := hall.unique dropSingleTagged hmem 14 15 ⟨_, rfl, by decide⟩ ⟨_, rfl, by decide⟩
  exact absurd hsame (by decide)

end FalconGpon.Vlan
