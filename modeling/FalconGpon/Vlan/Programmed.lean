/-
# What the programming loop leaves in the tables

`addNew` is what adding a rule comes to when the tables are programmed from empty ones: the rule
goes to the end, unless it is a default rule and the table has one for the same numbers of tags.
`programRules_returns`: after a successful loop the tables hold what `addNew` makes of the images
of the rules, in their order.
-/

import FalconGpon.Lib.KeepFirst
import FalconGpon.Vlan.GpeRuns

namespace FalconGpon.Vlan

open FalconGpon.Lib Program Vlan.Gpe

def addNew (rules : List GpeEntry) (new : GpeEntry) : List GpeEntry :=
  if new.1.def' ∧ rules.any (new.1.sameDefault ·.1) then rules else rules ++ [new]

def addImage (rules : List GpeEntry) (new : Option GpeEntry) : List GpeEntry :=
  new.elim rules (addNew rules)

theorem length_addImage_le (rules : List GpeEntry) (new : Option GpeEntry) :
    (addImage rules new).length ≤ rules.length + 1 := by
  cases new with
  | none => exact Nat.le_succ _
  | some new =>
      change (addNew rules new).length ≤ _
      rw [addNew]
      split
      · exact Nat.le_succ _
      · rw [List.length_append, List.length_singleton]

/-- Behind the end of a table with room, adding a rule is `addImage`. -/
theorem withImage_eq {rules : List GpeEntry} {ruleIdx : Nat} (hend : rules.length ≤ ruleIdx)
    (hroom : ruleIdx < onuGpeMaxVlans) (new : Option GpeEntry) :
    withImage rules ruleIdx new = addImage rules new := by
  cases new with
  | none => rfl
  | some new =>
      change addEntry rules ruleIdx new = addNew rules new
      rw [addEntry, addNew, if_neg (Nat.not_lt.mpr hend), if_pos (hend.trans_lt hroom)]

def usStep (rules : List GpeEntry) (e : RxVlanOperTable) : List GpeEntry :=
  addImage rules (image false e.filter)

/-- The downstream part of the loop, for the table of the ME itself. -/
def dsStep (env : SetContext) (shadowOf : RxVlanOperTable → BitVec 16) (rules : List GpeEntry)
    (e : RxVlanOperTable) : List GpeEntry :=
  if shadowOf e = 0 then
    addImage (if env.vendor = .alcl then rules ++ [iopDsEntry] else rules)
      (image true (env.dsFilter e))
  else rules

section KeepFirst

/-! ### The tables as the first default rules of each kind -/

abbrev SameDefault (new old : GpeEntry) : Prop :=
  new.1.def' ∧ new.1.sameDefault old.1

theorem SameDefault.symm {new old : GpeEntry} (h : SameDefault new old) (hvalid : new.1.valid) :
    SameDefault old new := by
  have hboth := h.2
  simp only [GpeVlanRuleTable.sameDefault, Bool.and_eq_true, beq_iff_eq] at hboth
  refine ⟨hboth.2, ?_⟩
  simp only [GpeVlanRuleTable.sameDefault, Bool.and_eq_true, beq_iff_eq]
  exact ⟨⟨⟨⟨hvalid, hboth.1.1.1.2.symm⟩, hboth.1.1.2.symm⟩, hboth.1.2.symm⟩, h.1⟩

theorem addNew_eq_keepNew (rules : List GpeEntry) (new : GpeEntry) :
    addNew rules new = keepNew SameDefault rules new := by
  rw [addNew, keepNew]
  apply if_congr _ rfl rfl
  rw [List.any_eq_true]
  exact ⟨fun h => h.2.imp fun _ hold => ⟨hold.1, h.1, hold.2⟩,
    fun h => h.elim fun old hold => ⟨hold.2.1, old, hold.1, hold.2.2⟩⟩

theorem keepNew_iopDsEntry (rules : List GpeEntry) :
    keepNew SameDefault rules iopDsEntry = rules ++ [iopDsEntry] :=
  if_neg fun h => h.elim fun _ hold => Bool.false_ne_true hold.2.1

theorem addImage_eq_foldl (rules : List GpeEntry) (new : Option GpeEntry) :
    addImage rules new = new.toList.foldl (keepNew SameDefault) rules := by
  cases new with
  | none => rfl
  | some new => exact addNew_eq_keepNew rules new

def usImages (sorted : List RxVlanOperTable) : List GpeEntry :=
  sorted.flatMap fun e => (image false e.filter).toList

/-- The downstream images of the rules that are not split off, with the pass-through rules. -/
def dsImages (env : SetContext) (shadowOf : RxVlanOperTable → BitVec 16)
    (sorted : List RxVlanOperTable) : List GpeEntry :=
  sorted.flatMap fun e =>
    if shadowOf e = 0 then
      (if env.vendor = .alcl then [iopDsEntry] else []) ++ (image true (env.dsFilter e)).toList
    else []

theorem foldl_usStep (sorted : List RxVlanOperTable) :
    sorted.foldl usStep [] = keepFirst SameDefault (usImages sorted) := by
  rw [keepFirst, usImages, List.foldl_flatMap]
  congr 1
  funext rules e
  exact addImage_eq_foldl rules _

theorem foldl_dsStep (env : SetContext) (shadowOf : RxVlanOperTable → BitVec 16)
    (sorted : List RxVlanOperTable) :
    sorted.foldl (dsStep env shadowOf) [] =
      keepFirst SameDefault (dsImages env shadowOf sorted) := by
  rw [keepFirst, dsImages, List.foldl_flatMap]
  congr 1
  funext rules e
  rw [dsStep]
  by_cases hzero : shadowOf e = 0
  · rw [if_pos hzero, if_pos hzero, List.foldl_append, addImage_eq_foldl]
    by_cases hvendor : env.vendor = .alcl
    · rw [if_pos hvendor, if_pos hvendor, List.foldl_cons, List.foldl_nil, keepNew_iopDsEntry]
    · rw [if_neg hvendor, if_neg hvendor, List.foldl_nil]
  · rw [if_neg hzero, if_neg hzero, List.foldl_nil]

variable {sorted : List RxVlanOperTable} {new : GpeEntry}

theorem image_valid {ds : Bool} {f : VlanFilter}
    (h : image ds f = some new) : new.1.valid = true := by
  obtain ⟨omciIdx, -, hrow⟩ := Option.bind_eq_some_iff.mp h
  split at hrow
  · next hvalid => exact Option.some.inj hrow ▸ (Bool.and_eq_true_iff.mp hvalid).1
  · cases hrow

theorem mem_usImages :
    new ∈ usImages sorted ↔ ∃ e ∈ sorted, image false e.filter = some new := by
  simp only [usImages, List.mem_flatMap, Option.mem_toList]

theorem usImages_valid (h : new ∈ usImages sorted) : new.1.valid = true := by
  obtain ⟨e, -, himage⟩ := mem_usImages.mp h
  exact image_valid himage

theorem dsImages_valid {env : SetContext} {shadowOf : RxVlanOperTable → BitVec 16}
    (h : new ∈ dsImages env shadowOf sorted) : new.1.valid = true := by
  obtain ⟨e, -, hnew⟩ := List.mem_flatMap.mp h
  split at hnew
  · rcases List.mem_append.mp hnew with hpass | himage
    · split at hpass
      · exact List.mem_singleton.mp hpass ▸ rfl
      · exact absurd hpass List.not_mem_nil
    · exact image_valid (Option.mem_toList.mp himage)
  · exact absurd hnew List.not_mem_nil

end KeepFirst

/-- A relation between the states before and after that the work on one table keeps to, whether
or not it succeeds. -/
structure Frame (R : Gpe → Gpe → Prop) (ds : Bool) (id : BitVec 16) : Prop where
  refl : ∀ g, R g g
  trans : ∀ {g₁ g₂ g₃}, R g₁ g₂ → R g₂ g₃ → R g₁ g₃
  devCtl : Keeps R devCtl
  setTable : ∀ rules, Keeps R (Program.modify fun g => g.setTable ds id rules)
  ruleMapDir : ∀ ds' omciIdx f, Keeps R (ruleMapDir ds' omciIdx f)

namespace Frame

variable {R : Gpe → Gpe → Prop} {ds : Bool} {id : BitVec 16}

theorem extVlanGet (h : Frame R ds id) (ds' : Bool) (id' : BitVec 16) :
    Keeps R (extVlanGet ds' id') :=
  h.devCtl.bind h.trans fun _ => (keeps_read h.refl).bind h.trans fun _ => keeps_pure h.refl _

theorem extVlanSet (h : Frame R ds id) (rules : List GpeEntry) : Keeps R (extVlanSet ds id rules) :=
  h.devCtl.bind h.trans fun _ => h.setTable _

theorem extVlanIdxGet (h : Frame R ds id) : Keeps R (extVlanIdxGet id ds) := by
  refine (keeps_read h.refl).bind h.trans fun g => ?_
  split
  · exact keeps_pure h.refl _
  · exact h.devCtl.bind h.trans fun _ => (h.setTable _).bind h.trans fun _ => h.devCtl

theorem extVlanRuleAdd (h : Frame R ds id) {ruleIdx omciIdx : Nat} {f : VlanFilter} :
    Keeps R (extVlanRuleAdd ds id ruleIdx omciIdx f) := by
  refine (h.extVlanGet ds id).bind h.trans fun rules =>
    (h.ruleMapDir ds omciIdx f).bind h.trans fun new => ?_
  split
  · exact h.extVlanSet _
  · exact keeps_pure h.refl _

theorem entryAddDir (h : Frame R ds id) (entryIdx : Nat) (f : VlanFilter) :
    Keeps R (entryAddDir id entryIdx ds f) := by
  rw [Vlan.entryAddDir]
  split
  · exact keeps_fail h.refl
  · split
    · exact keeps_pure h.refl _
    · exact h.extVlanIdxGet.bind h.trans fun _ => h.extVlanRuleAdd

theorem iopDsEntryAdd (h : Frame R true id) {entryIdx : Nat} :
    Keeps R (iopDsEntryAdd id entryIdx) := by
  rw [Vlan.iopDsEntryAdd]
  split
  · exact keeps_fail h.refl
  · refine h.extVlanIdxGet.bind h.trans fun _ => (h.extVlanGet true id).bind h.trans fun rules => ?_
    split
    · exact h.extVlanSet _
    · split
      · exact keeps_fail h.refl
      · exact h.extVlanSet _

theorem programShadow (h : Frame R true id) (f : VlanFilter) : Keeps R (programShadow id f) := by
  refine h.extVlanIdxGet.bind h.trans fun _ => ?_
  split
  · exact h.extVlanRuleAdd.attempt
  · exact keeps_pure h.refl _

theorem programDs {env : SetContext} (h : Frame R true env.id) (dsIdx : Nat) (f : VlanFilter) :
    Keeps R (programDs env dsIdx f) := by
  rw [Vlan.programDs]
  split
  · exact h.iopDsEntryAdd.bind h.trans fun _ => (h.entryAddDir _ _).bind h.trans fun _ =>
      keeps_pure h.refl _
  · exact (h.entryAddDir _ _).bind h.trans fun _ => keeps_pure h.refl _

theorem ruleDelete (h : Frame R ds id) (ruleIdx : Nat) : Keeps R (ruleDelete ds id ruleIdx) := by
  refine (h.extVlanGet ds id).bind h.trans fun rules => ?_
  split
  · exact keeps_pure h.refl _
  · split
    · exact keeps_pure h.refl _
    · split
      · exact keeps_fail h.refl
      · exact h.extVlanSet _

theorem entryRemove (hus : Frame R false id) (hds : Frame R true id) (entryIdx : Nat)
    (dsMode : BitVec 8) : Keeps R (entryRemove id entryIdx dsMode) := by
  rw [Vlan.entryRemove]
  split
  · exact keeps_fail hus.refl
  · refine hus.extVlanIdxGet.bind hus.trans fun _ =>
      (hus.ruleDelete entryIdx).bind hus.trans fun _ => ?_
    split
    · exact hds.extVlanIdxGet.bind hds.trans fun _ => hds.ruleDelete entryIdx
    · exact keeps_pure hus.refl _

end Frame

def Elsewhere (ds : Bool) (id : BitVec 16) (g g' : Gpe) : Prop :=
  ∀ ds' id', ¬(ds' = ds ∧ id' = id) → g'.table ds' id' = g.table ds' id'

theorem frame_elsewhere (ds : Bool) (id : BitVec 16) : Frame (Elsewhere ds id) ds id where
  refl := fun _ _ _ _ => rfl
  trans := fun h h' ds' id' hne => (h' ds' id' hne).trans (h ds' id' hne)
  devCtl := fun _ _ _ _ => rfl
  setTable := fun _ _ _ _ hne => if_neg hne
  ruleMapDir := fun _ _ _ _ _ _ _ => rfl

theorem Elsewhere.rules {ds : Bool} {id : BitVec 16} {g g' : Gpe} (h : Elsewhere ds id g g')
    {ds' : Bool} {id' : BitVec 16} (hne : ¬(ds' = ds ∧ id' = id)) :
    g'.rules ds' id' = g.rules ds' id' := by
  rw [Gpe.rules, h ds' id' hne, Gpe.rules]

variable {env : SetContext} {shadowOf : RxVlanOperTable → BitVec 16} {g g' : Gpe} {u : Unit}

/-- A rule for the table of the ME itself, downstream. -/
theorem programDs_returns {dsIdx next : Nat} {f : VlanFilter}
    (h : (programDs env dsIdx f).Returns g next g')
    (hlength : (g.rules true env.id).length ≤ dsIdx) :
    OnlyRules g g' true env.id
        (addImage (if env.vendor = .alcl then g.rules true env.id ++ [iopDsEntry]
          else g.rules true env.id) (image true f)) ∧ (g'.rules true env.id).length ≤ next := by
  rw [programDs] at h
  by_cases hvendor : env.vendor = .alcl
  · rw [if_pos hvendor] at h ⊢
    obtain ⟨_, g₁, hiop, h⟩ := returns_bind.mp h
    obtain ⟨_, g₂, hadd, h⟩ := returns_bind.mp h
    obtain ⟨rfl, rfl⟩ := returns_pure.mp h
    obtain ⟨-, honly⟩ := iopDsEntryAdd_returns hiop hlength
    obtain ⟨hroom, honly'⟩ := entryAddDir_returns hadd
    have hend : (g₁.rules true env.id).length ≤ dsIdx + 1 := by
      rw [honly.1, List.length_append, List.length_singleton]
      omega
    rw [withImage_eq hend hroom] at honly'
    have hsize := length_addImage_le (g₁.rules true env.id) (image true f)
    rw [honly.1] at honly' hsize
    refine ⟨⟨honly'.1, fun ds' id' hne => ?_⟩, ?_⟩
    · exact (honly'.2 ds' id' hne).trans (honly.2 ds' id' hne)
    · rw [honly'.1]
      rw [honly.1] at hend
      omega
  · rw [if_neg hvendor] at h ⊢
    obtain ⟨_, g₂, hadd, h⟩ := returns_bind.mp h
    obtain ⟨rfl, rfl⟩ := returns_pure.mp h
    obtain ⟨hroom, honly⟩ := entryAddDir_returns hadd
    rw [withImage_eq hlength hroom] at honly
    have hsize := length_addImage_le (g.rules true env.id) (image true f)
    refine ⟨honly, ?_⟩
    rw [honly.1]
    omega

/-- After a successful loop, the tables of the ME hold what the steps make of the rules. -/
theorem programRules_returns {usIdx dsIdx : Nat} {sorted : List RxVlanOperTable}
    (h : (programRules env shadowOf usIdx dsIdx sorted).Returns g u g')
    (hown : ∀ e ∈ sorted, shadowOf e = 0 ∨ shadowOf e ≠ env.id)
    (hus : (g.rules false env.id).length ≤ usIdx)
    (hds : env.dsMode = 0 → (g.rules true env.id).length ≤ dsIdx) :
    g'.rules false env.id = sorted.foldl usStep (g.rules false env.id) ∧ (env.dsMode = 0 →
        g'.rules true env.id = sorted.foldl (dsStep env shadowOf) (g.rules true env.id)) := by
  induction sorted generalizing g usIdx dsIdx with
  | nil =>
      obtain ⟨-, rfl⟩ := returns_pure.mp h
      exact ⟨rfl, fun _ => rfl⟩
  | cons e rest ih =>
      have hrest : ∀ e ∈ rest, shadowOf e = 0 ∨ shadowOf e ≠ env.id :=
        fun e' he' => hown e' (List.mem_cons_of_mem _ he')
      obtain ⟨_, g₁, hadd, h⟩ := returns_bind.mp h
      obtain ⟨hroom, honly⟩ := entryAddDir_returns hadd
      rw [withImage_eq hus hroom] at honly
      have hus₁ : (g₁.rules false env.id).length ≤ usIdx + 1 := by
        have hsize := length_addImage_le (g.rules false env.id) (image false e.filter)
        rw [honly.1]
        omega
      have hds₁ : g₁.rules true env.id = g.rules true env.id :=
        honly.2 true env.id fun hboth => Bool.noConfusion hboth.1
      rw [List.foldl_cons, List.foldl_cons, usStep, ← honly.1]
      by_cases hmode : env.dsMode = 0
      · rw [if_pos hmode] at h
        by_cases hzero : shadowOf e = 0
        · rw [if_pos hzero] at h
          obtain ⟨next, g₂, hprogram, h⟩ := returns_bind.mp h
          obtain ⟨honlyDs, hsize⟩ := programDs_returns hprogram (hds₁ ▸ hds hmode)
          have hus₂ : g₂.rules false env.id = g₁.rules false env.id :=
            honlyDs.2 false env.id fun hboth => Bool.noConfusion hboth.1
          obtain ⟨hfinalUs, hfinalDs⟩ := ih h hrest (hus₂ ▸ hus₁) fun _ => hsize
          refine ⟨hus₂ ▸ hfinalUs, fun _ => ?_⟩
          rw [hfinalDs hmode, dsStep, if_pos hzero, honlyDs.1, hds₁]
        · rw [if_neg hzero] at h
          obtain ⟨_, g₂, hprogram, h⟩ := returns_bind.mp h
          have hkept := (frame_elsewhere true (shadowOf e)).programShadow (env.dsFilter e) g₁
          rw [hprogram] at hkept
          have hus₂ : g₂.rules false env.id = g₁.rules false env.id :=
            hkept.rules fun hboth => Bool.noConfusion hboth.1
          have hds₂ : g₂.rules true env.id = g₁.rules true env.id := by
            refine hkept.rules fun hboth => ?_
            exact ((hown e List.mem_cons_self).resolve_left hzero) hboth.2.symm
          obtain ⟨hfinalUs, hfinalDs⟩ := ih h hrest (hus₂ ▸ hus₁) fun _ => by
            rw [hds₂, hds₁]
            exact hds hmode
          refine ⟨hus₂ ▸ hfinalUs, fun _ => ?_⟩
          rw [hfinalDs hmode, dsStep, if_neg hzero, hds₂, hds₁]
      · rw [if_neg hmode] at h
        obtain ⟨hfinalUs, -⟩ := ih h hrest hus₁ (hds₁ ▸ hds)
        exact ⟨hfinalUs, fun hzero => absurd hzero hmode⟩

end FalconGpon.Vlan
