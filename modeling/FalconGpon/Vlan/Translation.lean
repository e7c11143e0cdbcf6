/-
# The upstream translation of a VLAN rule

A rule of the ME and a rule of the hardware both describe a tag operation: which frames it
takes by their number of tags, what it compares, which tags it removes and which ones it
generates. The hardware calls the only tag of a single-tagged frame the outer one, the ME calls
it the inner one.

`usMap_faithful_iff`: for a rule that the table accepts, the two descriptions are the same
exactly if the rule is `UsFaithful`. The rows that go wrong are the double-tagged drop rules,
which strip the tags instead, three rows that take the generated tag from the wrong field of
the rule, and the default rows, which compare a VID or not without looking at it.
-/

import FalconGpon.Vlan.RowMatch
import Mathlib.Algebra.Group.Int.Defs

namespace FalconGpon.Vlan

/-- Where the priority of a generated tag comes from. -/
inductive PrioSource
  | value (prio : Int)
  | receivedInner
  | receivedOuter
  | dscp
deriving DecidableEq

/-- Where the VID of a generated tag comes from. -/
inductive VidSource
  | value (vid : Int)
  | receivedInner
  | receivedOuter
deriving DecidableEq

/-- A generated tag. -/
structure NewTag where
  prio : PrioSource
  vid : VidSource
deriving DecidableEq

/-- What is compared of a received tag. -/
@[ext]
structure TagFilter where
  prio : Option Int
  vid : Option Int
deriving DecidableEq

/-- What is done to a frame. -/
inductive TagTreatment
  | discard
  | forward (removeOuter removeInner : Bool) (generate : List NewTag)
deriving DecidableEq

/-- What a VLAN rule is for. -/
@[ext]
structure TagOperation where
  untagged : Bool
  single : Bool
  double : Bool
  outer : TagFilter
  inner : TagFilter
  treatment : TagTreatment
deriving DecidableEq

/-- The coding of a priority to generate. -/
def prioSource (prio : Int) : PrioSource :=
  if prio = 8 then .receivedInner
  else if prio = 9 then .receivedOuter
  else if prio = 10 then .dscp
  else .value prio

/-- The coding of a VID to generate. -/
def vidSource (vid : Int) : VidSource :=
  if vid = 4096 then .receivedInner
  else if vid = 4097 then .receivedOuter
  else .value vid

def newTag (prio vid : Int) : List NewTag :=
  if prio ≤ 10 then [⟨prioSource prio, vidSource vid⟩] else []

def NewTag.ofSingle (tag : NewTag) : NewTag where
  prio := if tag.prio = .receivedInner then .receivedOuter else tag.prio
  vid := if tag.vid = .receivedInner then .receivedOuter else tag.vid

def TagFilter.any : TagFilter :=
  ⟨none, none⟩

def TagFilter.named (prio vid : Int) : TagFilter where
  prio := if prio ≤ 7 then some prio else none
  vid := if vid ≤ 4095 then some vid else none

namespace VlanFilter

def generated (f : VlanFilter) : List NewTag :=
  newTag f.treatmentOuterPriority f.treatmentOuterVid ++
    newTag f.treatmentInnerPriority f.treatmentInnerVid

/-- What the rule of the ME means. -/
def operation (f : VlanFilter) : TagOperation :=
  if f.filterOuterPriority = 15 then
    if f.filterInnerPriority = 15 then
      { untagged := true, single := false, double := false
        outer := .any
        inner := .any
        treatment :=
          if f.treatmentTagsToRemove = 3 then .discard else .forward false false f.generated }
    else
      { untagged := false, single := true, double := false
        outer := .named f.filterInnerPriority f.filterInnerVid
        inner := .any
        treatment :=
          if f.treatmentTagsToRemove = 3 then .discard
          else .forward (1 ≤ f.treatmentTagsToRemove) false (f.generated.map NewTag.ofSingle) }
  else
    { untagged := false, single := false, double := true
      outer := .named f.filterOuterPriority f.filterOuterVid
      inner := .named f.filterInnerPriority f.filterInnerVid
      treatment :=
        if f.treatmentTagsToRemove = 3 then .discard
        else .forward (1 ≤ f.treatmentTagsToRemove) (2 ≤ f.treatmentTagsToRemove) f.generated }

end VlanFilter

/-- What a rule and a treatment of the hardware mean. Flags that remove a tag have no effect
on frames without it. -/
def hardwareOperation (r : GpeVlanRuleTable) (t : GpeVlanTreatmentTable) : TagOperation where
  untagged := r.valid && r.zeroEnable
  single := r.valid && r.oneEnable
  double := r.valid && r.twoEnable
  outer.prio := if r.outerPriorityEnable then some r.outerPriorityFilter.toNat else none
  outer.vid := if r.outerVidEnable then some r.outerVidFilter.toNat else none
  inner.prio := if r.innerPriorityEnable then some r.innerPriorityFilter.toNat else none
  inner.vid := if r.innerVidEnable then some r.innerVidFilter.toNat else none
  treatment :=
    if t.discardEnable then .discard
    else
      .forward ((r.oneEnable || r.twoEnable) && t.outerNotGenerate)
        (r.twoEnable && t.innerNotGenerate)
        (newTag t.tagaTreatment.toNat t.tagaVidTreatment.toNat ++
          newTag t.tagbTreatment.toNat t.tagbVidTreatment.toNat)

/-- The rules that the upstream tables translate as they are meant. -/
structure UsFaithful (f : VlanFilter) : Prop where
  /-- The default rules of single-tagged frames compare the VID if they remove the tag. -/
  single : f.filterOuterPriority = 15 → f.filterInnerPriority = 14 →
    (f.filterInnerVid ≤ 4095 ↔ f.treatmentTagsToRemove = 1)
  /-- The default rules of double-tagged frames compare no VID, and those that drop the frame
  forward it without tags. -/
  double : f.filterOuterPriority = 14 →
    f.treatmentTagsToRemove = 0 ∧ 4095 < f.filterOuterVid ∧ 4095 < f.filterInnerVid
  /-- The tag for any inner tag takes its VID from the unused field. -/
  anyInner : f.filterOuterPriority = 8 → f.filterInnerPriority = 14 →
    4095 < f.filterInnerVid ∧ f.treatmentOuterVid = f.treatmentInnerVid
  /-- A new outer tag with a new priority is taken from the unused fields, which ask for none. -/
  newOuter : f.filterOuterPriority = 8 → f.treatmentTagsToRemove = 1 →
    7 < f.treatmentInnerPriority
  /-- Swapped tags take their VIDs from the filter. -/
  swap : f.treatmentOuterPriority = 8 →
    f.treatmentOuterVid = f.filterInnerVid ∧ f.treatmentInnerVid = f.filterOuterVid ∧
      f.treatmentInnerPriority = 9

section Values

variable {f : VlanFilter}

@[simp]
theorem mapSceVal_tip : mapSceVal f tip = f.treatmentInnerPriority := rfl

@[simp]
theorem mapSceVal_tiv : mapSceVal f tiv = f.treatmentInnerVid := rfl

@[simp]
theorem mapSceVal_top : mapSceVal f top = f.treatmentOuterPriority := rfl

@[simp]
theorem mapSceVal_tov : mapSceVal f tov = f.treatmentOuterVid := rfl

@[simp]
theorem mapSceVal_fip : mapSceVal f fip = f.filterInnerPriority := rfl

@[simp]
theorem mapSceVal_fiv : mapSceVal f fiv = f.filterInnerVid := rfl

@[simp]
theorem mapSceVal_fop : mapSceVal f fop = f.filterOuterPriority := rfl

@[simp]
theorem mapSceVal_fov : mapSceVal f fov = f.filterOuterVid := rfl

theorem mapSceVal_of_nonneg {val : Int} (h : 0 ≤ val) : mapSceVal f val = val := by
  have hname : ∀ name : Int, name < 0 → ¬val = name := by
    intro name hname hval
    omega
  rw [mapSceVal, if_neg (hname tip (by decide)), if_neg (hname tiv (by decide)),
    if_neg (hname tit (by decide)), if_neg (hname top (by decide)),
    if_neg (hname tov (by decide)), if_neg (hname tot (by decide)),
    if_neg (hname fip (by decide)), if_neg (hname fiv (by decide)),
    if_neg (hname fop (by decide)), if_neg (hname fov (by decide))]

theorem bit_one : bit 1 = true := rfl

theorem bit_zero : ¬bit 0 = true := Bool.false_ne_true

theorem bit_ite {p : Prop} [Decidable p] : bit (if p then 1 else 0) = decide p := by
  by_cases hp : p
  · rw [if_pos hp, bit_one, decide_eq_true hp]
  · rw [if_neg hp, decide_eq_false hp]
    rfl

theorem toNat_ofInt_of_lt {w : Nat} {val : Int} (hlow : 0 ≤ val) (hhigh : val < 2 ^ w) :
    ((BitVec.ofInt w val).toNat : Int) = val := by
  have hmod : val % ((2 ^ w : Nat) : Int) = val := by
    apply Int.emod_eq_of_lt hlow
    exact_mod_cast hhigh
  rw [BitVec.toNat_ofInt, hmod, Int.toNat_of_nonneg hlow]

end Values

/-- The ranges of the fields of a rule. -/
structure VlanFilter.InRange (f : VlanFilter) : Prop where
  filterOuterPriority : 0 ≤ f.filterOuterPriority ∧ f.filterOuterPriority < 16
  filterOuterVid : 0 ≤ f.filterOuterVid ∧ f.filterOuterVid < 8192
  filterInnerPriority : 0 ≤ f.filterInnerPriority ∧ f.filterInnerPriority < 16
  filterInnerVid : 0 ≤ f.filterInnerVid ∧ f.filterInnerVid < 8192
  treatmentOuterPriority : 0 ≤ f.treatmentOuterPriority ∧ f.treatmentOuterPriority < 16
  treatmentOuterVid : 0 ≤ f.treatmentOuterVid ∧ f.treatmentOuterVid < 8192
  treatmentInnerPriority : 0 ≤ f.treatmentInnerPriority ∧ f.treatmentInnerPriority < 16
  treatmentInnerVid : 0 ≤ f.treatmentInnerVid ∧ f.treatmentInnerVid < 8192

theorem RxVlanOperTable.filter_inRange (e : RxVlanOperTable) : e.filter.InRange where
  filterOuterPriority := ⟨Int.natCast_nonneg _, Int.ofNat_lt.mpr e.filterOuterPrio.isLt⟩
  filterOuterVid := ⟨Int.natCast_nonneg _, Int.ofNat_lt.mpr e.filterOuterVid.isLt⟩
  filterInnerPriority := ⟨Int.natCast_nonneg _, Int.ofNat_lt.mpr e.filterInnerPrio.isLt⟩
  filterInnerVid := ⟨Int.natCast_nonneg _, Int.ofNat_lt.mpr e.filterInnerVid.isLt⟩
  treatmentOuterPriority := ⟨Int.natCast_nonneg _, Int.ofNat_lt.mpr e.treatmentOuterPrio.isLt⟩
  treatmentOuterVid := ⟨Int.natCast_nonneg _, Int.ofNat_lt.mpr e.treatmentOuterVid.isLt⟩
  treatmentInnerPriority := ⟨Int.natCast_nonneg _, Int.ofNat_lt.mpr e.treatmentInnerPrio.isLt⟩
  treatmentInnerVid := ⟨Int.natCast_nonneg _, Int.ofNat_lt.mpr e.treatmentInnerVid.isLt⟩

section Filters

/-! ### The filter of one tag -/

/-- The row enables the comparison with a field exactly if it takes the concrete values of it. -/
structure TagRow (prioName vidName prio vid : Int) (rule : SceRule) : Prop where
  prio : (prio = pc ∨ prio = ps) ∧ rule.priorityEnable = 1 ∧ rule.priorityFilter = prioName ∨
    7 < prio ∧ rule.priorityEnable = 0
  vid : (vid = vidc ∨ vid = vids) ∧ rule.vidEnable = 1 ∧ rule.vidFilter = vidName ∨
    4095 < vid ∧ rule.vidEnable = 0

instance (prioName vidName prio vid : Int) (rule : SceRule) :
    Decidable (TagRow prioName vidName prio vid rule) :=
  decidable_of_iff
    (((prio = pc ∨ prio = ps) ∧ rule.priorityEnable = 1 ∧ rule.priorityFilter = prioName ∨
        7 < prio ∧ rule.priorityEnable = 0) ∧
      ((vid = vidc ∨ vid = vids) ∧ rule.vidEnable = 1 ∧ rule.vidFilter = vidName ∨
        4095 < vid ∧ rule.vidEnable = 0))
    ⟨fun h => ⟨h.1, h.2⟩, fun h => ⟨h.prio, h.vid⟩⟩

/-- What the hardware compares of a tag. -/
def hardwareFilter (f : VlanFilter) (rule : SceRule) : TagFilter where
  prio := if bit rule.priorityEnable then
    some (BitVec.ofInt 3 (mapSceVal f rule.priorityFilter)).toNat else none
  vid := if bit rule.vidEnable then
    some (BitVec.ofInt 12 (mapSceVal f rule.vidFilter)).toNat else none

variable {f : VlanFilter} {prioName vidName prio vid prioVal vidVal : Int} {rule : SceRule}

/-- The hardware compares what the filter names, but that a default row looks at the VID or not
whatever the filter says. -/
theorem hardwareFilter_eq_named_iff (h : TagRow prioName vidName prio vid rule)
    (hprioName : mapSceVal f prioName = prioVal) (hvidName : mapSceVal f vidName = vidVal)
    (hprioRange : 0 ≤ prioVal) (hvidRange : 0 ≤ vidVal)
    (hprio : if prio = pc ∨ prio = ps then prioVal ≤ 7 else prioVal = prio)
    (hvid : prioVal < 13 → if vid = vidc ∨ vid = vids then vidVal ≤ 4095 else vidVal = vid) :
    hardwareFilter f rule = .named prioVal vidVal ↔
      (13 ≤ prioVal → (vidVal ≤ 4095 ↔ vid = vidc ∨ vid = vids)) := by
  have hprioSame : (hardwareFilter f rule).prio = (TagFilter.named prioVal vidVal).prio := by
    rw [hardwareFilter, TagFilter.named]
    rcases h.prio with ⟨hclass, henable, hfilter⟩ | ⟨hexact, henable⟩
    · rw [if_pos hclass] at hprio
      have hvalue := toNat_ofInt_of_lt (w := 3) hprioRange (by omega)
      rw [henable, hfilter, hprioName, hvalue, if_pos bit_one, if_pos hprio]
    · have hclass : ¬(prio = pc ∨ prio = ps) := by
        have hpc : pc = -6 := rfl
        have hps : ps = -19 := rfl
        omega
      rw [if_neg hclass] at hprio
      have hlarge : ¬prioVal ≤ 7 := by omega
      rw [henable, if_neg bit_zero, if_neg hlarge]
  have hvidSame : (hardwareFilter f rule).vid = (TagFilter.named prioVal vidVal).vid ↔
      (vidVal ≤ 4095 ↔ vid = vidc ∨ vid = vids) := by
    rw [hardwareFilter, TagFilter.named]
    rcases h.vid with ⟨hclass, henable, hfilter⟩ | ⟨hexact, henable⟩
    · rw [henable, hfilter, hvidName, if_pos bit_one]
      by_cases hsmall : vidVal ≤ 4095
      · have hvalue := toNat_ofInt_of_lt (w := 12) hvidRange (by omega)
        rw [hvalue, if_pos hsmall]
        exact ⟨fun _ => ⟨fun _ => hclass, fun _ => hsmall⟩, fun _ => rfl⟩
      · rw [if_neg hsmall]
        exact ⟨nofun, fun hboth => absurd (hboth.mpr hclass) hsmall⟩
    · have hclass : ¬(vid = vidc ∨ vid = vids) := by
        have hvidc : vidc = -2 := rfl
        have hvids : vids = -3 := rfl
        omega
      rw [henable, if_neg bit_zero]
      by_cases hsmall : vidVal ≤ 4095
      · rw [if_pos hsmall]
        exact ⟨nofun, fun hboth => absurd (hboth.mp hsmall) hclass⟩
      · rw [if_neg hsmall]
        exact ⟨fun _ => ⟨fun hle => absurd hle hsmall, fun hin => absurd hin hclass⟩, fun _ => rfl⟩
  have hlookedAt : prioVal < 13 → (vidVal ≤ 4095 ↔ vid = vidc ∨ vid = vids) := by
    intro hlt
    by_cases hclass : vid = vidc ∨ vid = vids
    · have hsmall := hvid hlt
      rw [if_pos hclass] at hsmall
      exact ⟨fun _ => hclass, fun _ => hsmall⟩
    · have hequal := hvid hlt
      rw [if_neg hclass] at hequal
      have hlarge : ¬vidVal ≤ 4095 := by
        rcases h.vid with ⟨hin, -⟩ | ⟨hexact, -⟩
        · exact absurd hin hclass
        · omega
      exact ⟨fun hle => absurd hle hlarge, fun hin => absurd hin hclass⟩
  rw [TagFilter.ext_iff, hvidSame]
  constructor
  · exact fun hboth _ => hboth.2
  · intro hdefault
    refine ⟨hprioSame, ?_⟩
    by_cases hlt : prioVal < 13
    · exact hlookedAt hlt
    · exact hdefault (Int.not_lt.mp hlt)

/-- The rows of the two tables that are found describe the same frames and enable the
comparison with the same fields. -/
structure UpRow (row : VlanFilter) (up : SceAction) : Prop where
  zero : up.zeroEnable =
    if row.filterOuterPriority = 15 ∧ row.filterInnerPriority = 15 then 1 else 0
  one : up.oneEnable =
    if row.filterOuterPriority = 15 ∧ row.filterInnerPriority ≠ 15 then 1 else 0
  two : up.twoEnable = if row.filterOuterPriority ≠ 15 then 1 else 0
  outer :
    if row.filterOuterPriority = 15 then
      if row.filterInnerPriority = 15 then
        up.outer.priorityEnable = 0 ∧ up.outer.vidEnable = 0
      else TagRow fip fiv row.filterInnerPriority row.filterInnerVid up.outer
    else TagRow fop fov row.filterOuterPriority row.filterOuterVid up.outer
  inner :
    if row.filterOuterPriority = 15 then up.inner.priorityEnable = 0 ∧ up.inner.vidEnable = 0
    else TagRow fip fiv row.filterInnerPriority row.filterInnerVid up.inner

instance (row : VlanFilter) (up : SceAction) : Decidable (UpRow row up) :=
  decidable_of_iff
    (up.zeroEnable =
        (if row.filterOuterPriority = 15 ∧ row.filterInnerPriority = 15 then 1 else 0) ∧
      up.oneEnable =
        (if row.filterOuterPriority = 15 ∧ row.filterInnerPriority ≠ 15 then 1 else 0) ∧
      up.twoEnable = (if row.filterOuterPriority ≠ 15 then 1 else 0) ∧
      (if row.filterOuterPriority = 15 then
        if row.filterInnerPriority = 15 then
          up.outer.priorityEnable = 0 ∧ up.outer.vidEnable = 0
        else TagRow fip fiv row.filterInnerPriority row.filterInnerVid up.outer
      else TagRow fop fov row.filterOuterPriority row.filterOuterVid up.outer) ∧
      (if row.filterOuterPriority = 15 then
        up.inner.priorityEnable = 0 ∧ up.inner.vidEnable = 0
      else TagRow fip fiv row.filterInnerPriority row.filterInnerVid up.inner))
    ⟨fun ⟨h₁, h₂, h₃, h₄, h₅⟩ => ⟨h₁, h₂, h₃, h₄, h₅⟩,
      fun ⟨h₁, h₂, h₃, h₄, h₅⟩ => ⟨h₁, h₂, h₃, h₄, h₅⟩⟩

/-- The upstream row of the hardware for row `n`. -/
theorem upRow : ∀ n, (hn : n < omciRules.length) → n ≠ 14 → n ≠ 16 → n ≠ 21 →
    UpRow omciRules[n] (sceRow n).up := by
  decide +kernel

/-- The priorities to filter on, and how the default rows look at the VIDs. -/
structure DefaultRow (row : VlanFilter) : Prop where
  outer : row.filterOuterPriority = ps ∨ row.filterOuterPriority = 8 ∨
    row.filterOuterPriority = 14 ∨ row.filterOuterPriority = 15
  inner : row.filterInnerPriority = pc ∨ row.filterInnerPriority = 8 ∨
    row.filterInnerPriority = 14 ∨ row.filterInnerPriority = 15
  single : row.filterOuterPriority = 15 → row.filterInnerPriority = 14 →
    (row.filterInnerVid = vidc ↔ row.treatmentTagsToRemove = 1)
  double : row.filterOuterPriority = 14 →
    row.filterInnerPriority = 14 ∧ row.filterOuterVid = 4096
  anyInner : row.filterOuterPriority ≠ 15 → row.filterInnerPriority ≠ 15 ∧
    (row.filterInnerPriority = 14 → row.filterOuterPriority ≠ ps ∧ row.filterInnerVid = 4096)
  vids : row.filterInnerVid ≠ vids ∧ row.filterOuterVid ≠ vidc

instance (row : VlanFilter) : Decidable (DefaultRow row) :=
  decidable_of_iff
    ((row.filterOuterPriority = ps ∨ row.filterOuterPriority = 8 ∨
        row.filterOuterPriority = 14 ∨ row.filterOuterPriority = 15) ∧
      (row.filterInnerPriority = pc ∨ row.filterInnerPriority = 8 ∨
        row.filterInnerPriority = 14 ∨ row.filterInnerPriority = 15) ∧
      (row.filterOuterPriority = 15 → row.filterInnerPriority = 14 →
        (row.filterInnerVid = vidc ↔ row.treatmentTagsToRemove = 1)) ∧
      (row.filterOuterPriority = 14 →
        row.filterInnerPriority = 14 ∧ row.filterOuterVid = 4096) ∧
      (row.filterOuterPriority ≠ 15 → row.filterInnerPriority ≠ 15 ∧
        (row.filterInnerPriority = 14 →
          row.filterOuterPriority ≠ ps ∧ row.filterInnerVid = 4096)) ∧
      row.filterInnerVid ≠ vids ∧ row.filterOuterVid ≠ vidc)
    ⟨fun ⟨h₁, h₂, h₃, h₄, h₅, h₆⟩ => ⟨h₁, h₂, h₃, h₄, h₅, h₆⟩,
      fun ⟨h₁, h₂, h₃, h₄, h₅, h₆⟩ => ⟨h₁, h₂, h₃, h₄, h₅, h₆⟩⟩

theorem defaultRow : ∀ n, (hn : n < omciRules.length) → n ≠ 16 → DefaultRow omciRules[n] := by
  decide +kernel

variable {row : VlanFilter} {up : SceAction}

theorem UpRow.applies (h : UpRow row up) :
    (bit up.zeroEnable || bit up.oneEnable || bit up.twoEnable) = true := by
  by_cases houter : row.filterOuterPriority = 15
  · by_cases hinner : row.filterInnerPriority = 15
    · rw [h.zero, if_pos ⟨houter, hinner⟩, bit_one, Bool.true_or, Bool.true_or]
    · rw [h.one, if_pos ⟨houter, hinner⟩, bit_one, Bool.or_true, Bool.true_or]
  · rw [h.two, if_pos houter, bit_one, Bool.or_true]

theorem hardwareOperation_outer {b : Bool} (h : UpRow row up) :
    (hardwareOperation (ruleTables b up f).1
      (ruleTables b up f).2).outer = hardwareFilter f up.outer := by
  simp only [hardwareOperation, ruleTables, h.applies, Bool.true_and, if_true, hardwareFilter]

theorem hardwareOperation_inner {b : Bool} (h : UpRow row up) :
    (hardwareOperation (ruleTables b up f).1
      (ruleTables b up f).2).inner = hardwareFilter f up.inner := by
  simp only [hardwareOperation, ruleTables, h.applies, Bool.true_and, if_true, hardwareFilter]

theorem VlanFilter.Matches.outer_cases (h : row.Matches f) (hrow : DefaultRow row) :
    row.filterOuterPriority = ps ∧ f.filterOuterPriority ≤ 7 ∨
      row.filterOuterPriority ≠ ps ∧ f.filterOuterPriority = row.filterOuterPriority := by
  have hprio := h.outerPriority
  rw [priorityMatches] at hprio
  rcases hrow.outer with hps | hother
  · rw [hps] at hprio
    exact .inl ⟨hps, hprio⟩
  · have hexact : ¬(row.filterOuterPriority = ps ∨ row.filterOuterPriority = m07) := by
      rcases hother with hother | hother | hother <;> rw [hother] <;> decide
    rw [decide_eq_false hexact] at hprio
    exact .inr ⟨fun hps => hexact (.inl hps), Eq.symm hprio⟩

theorem VlanFilter.Matches.inner_cases (h : row.Matches f) :
    row.filterInnerPriority = pc ∧ f.filterInnerPriority ≤ 7 ∨
      row.filterInnerPriority ≠ pc ∧ f.filterInnerPriority = row.filterInnerPriority := by
  have hprio := h.innerPriority
  rw [priorityMatches] at hprio
  by_cases hpc : row.filterInnerPriority = pc
  · rw [decide_eq_true hpc] at hprio
    exact .inl ⟨hpc, hprio⟩
  · rw [decide_eq_false hpc] at hprio
    exact .inr ⟨hpc, Eq.symm hprio⟩

/-- The inner tag of the rule against the inner tag of the row. -/
theorem innerFilter_eq_iff (h : row.Matches f) (hf : f.InRange) (hrow : DefaultRow row)
    (htag : TagRow fip fiv row.filterInnerPriority row.filterInnerVid rule) :
    hardwareFilter f rule = .named f.filterInnerPriority f.filterInnerVid ↔
      (13 ≤ f.filterInnerPriority → (f.filterInnerVid ≤ 4095 ↔ row.filterInnerVid = vidc)) := by
  have hclass : row.filterInnerVid = vidc ↔
      row.filterInnerVid = vidc ∨ row.filterInnerVid = vids :=
    ⟨.inl, fun hin => hin.resolve_right hrow.vids.1⟩
  have hpc : pc = -6 := rfl
  have hps : ps = -19 := rfl
  rw [hclass]
  refine hardwareFilter_eq_named_iff htag mapSceVal_fip mapSceVal_fiv hf.filterInnerPriority.1
    hf.filterInnerVid.1 ?_ fun hlt => ?_
  · rcases h.inner_cases with ⟨hrowPc, hle⟩ | ⟨hrowPc, hequal⟩
    · rw [if_pos (.inl hrowPc)]
      exact hle
    · have hnot : ¬(row.filterInnerPriority = pc ∨ row.filterInnerPriority = ps) := by
        have hrange := hf.filterInnerPriority.1
        omega
      rw [if_neg hnot]
      exact hequal
  · have hrowLt : row.filterInnerPriority < 13 := by
      have hcases := h.inner_cases
      omega
    have hvid := h.innerVid hrowLt
    by_cases hin : row.filterInnerVid = vidc
    · rw [if_pos hin] at hvid
      rw [if_pos (.inl hin)]
      exact hvid
    · rw [if_neg hin] at hvid
      rw [if_neg (hclass.not.mp hin)]
      exact hvid.symm

/-- The outer tag of the rule against the outer tag of the row. -/
theorem outerFilter_eq_iff (h : row.Matches f) (hf : f.InRange) (hrow : DefaultRow row)
    (htag : TagRow fop fov row.filterOuterPriority row.filterOuterVid rule) :
    hardwareFilter f rule = .named f.filterOuterPriority f.filterOuterVid ↔
      (13 ≤ f.filterOuterPriority → (f.filterOuterVid ≤ 4095 ↔ row.filterOuterVid = vids)) := by
  have hclass : row.filterOuterVid = vids ↔
      row.filterOuterVid = vidc ∨ row.filterOuterVid = vids :=
    ⟨.inr, fun hin => hin.resolve_left hrow.vids.2⟩
  have hpc : pc = -6 := rfl
  have hps : ps = -19 := rfl
  rw [hclass]
  refine hardwareFilter_eq_named_iff htag mapSceVal_fop mapSceVal_fov hf.filterOuterPriority.1
    hf.filterOuterVid.1 ?_ fun hlt => ?_
  · rcases h.outer_cases hrow with ⟨hrowPs, hle⟩ | ⟨hrowPs, hequal⟩
    · rw [if_pos (.inr hrowPs)]
      exact hle
    · have hnot : ¬(row.filterOuterPriority = pc ∨ row.filterOuterPriority = ps) := by
        have hrange := hf.filterOuterPriority.1
        omega
      rw [if_neg hnot]
      exact hequal
  · have hrowLt : row.filterOuterPriority < 13 := by
      have hcases := h.outer_cases hrow
      omega
    have hvid := h.outerVid hrowLt
    by_cases hin : row.filterOuterVid = vids
    · rw [if_pos hin] at hvid
      rw [if_pos (.inr hin)]
      exact hvid
    · rw [if_neg hin] at hvid
      rw [if_neg (hclass.not.mp hin)]
      exact hvid.symm

/-- The default rows compare the VIDs as the rule means. -/
structure FiltersFaithful (f : VlanFilter) : Prop where
  single : f.filterOuterPriority = 15 → f.filterInnerPriority = 14 →
    (f.filterInnerVid ≤ 4095 ↔ f.treatmentTagsToRemove = 1)
  double : f.filterOuterPriority = 14 → 4095 < f.filterOuterVid ∧ 4095 < f.filterInnerVid
  anyInner : f.filterOuterPriority = 8 → f.filterInnerPriority = 14 → 4095 < f.filterInnerVid

/-- The row of a rule for one tag. -/
theorem singleFilters_iff (hmatch : row.Matches f) (hf : f.InRange) (hrow : DefaultRow row)
    (hup : UpRow row up) (houter : f.filterOuterPriority = 15)
    (hinner : f.filterInnerPriority ≠ 15) :
    hardwareFilter f up.outer = .named f.filterInnerPriority f.filterInnerVid ∧
      hardwareFilter f up.inner = .any ↔ FiltersFaithful f := by
  have hrowOuter : row.filterOuterPriority = 15 := by
    have hcases := hmatch.outer_cases hrow
    omega
  have hrowInner : row.filterInnerPriority ≠ 15 := by
    have hcases := hmatch.inner_cases
    have hpc : pc = -6 := rfl
    omega
  have htag := hup.outer
  have hvoid := hup.inner
  rw [if_pos hrowOuter, if_neg hrowInner] at htag
  rw [if_pos hrowOuter] at hvoid
  have hany : hardwareFilter f up.inner = .any := by
    rw [hardwareFilter, hvoid.1, hvoid.2, if_neg bit_zero, if_neg bit_zero, TagFilter.any]
  have hremove := hmatch.tagsToRemove
  have hrowIn := hmatch.inner_cases
  have hcodes := hrow.inner
  have hdefault := hrow.single hrowOuter
  rw [innerFilter_eq_iff hmatch hf hrow htag]
  constructor
  · intro h
    refine ⟨fun _ h14 => ?_, fun h14 => absurd h14 (by omega), fun h8 => absurd h8 (by omega)⟩
    rw [h.1 (by omega), hdefault (by omega), hremove]
  · intro h
    refine ⟨fun hlarge => ?_, hany⟩
    have h14 : f.filterInnerPriority = 14 := by omega
    rw [h.single houter h14, hdefault (by omega), hremove]

/-- The row of a rule for two tags. -/
theorem doubleFilters_iff (hmatch : row.Matches f) (hf : f.InRange) (hrow : DefaultRow row)
    (hup : UpRow row up) (houter : f.filterOuterPriority ≠ 15) :
    hardwareFilter f up.outer = .named f.filterOuterPriority f.filterOuterVid ∧
      hardwareFilter f up.inner = .named f.filterInnerPriority f.filterInnerVid ↔
        FiltersFaithful f := by
  have hps : ps = -19 := rfl
  have hpc : pc = -6 := rfl
  have hvids : vids = -3 := rfl
  have hvidc : vidc = -2 := rfl
  have houterCases := hmatch.outer_cases hrow
  have hinnerCases := hmatch.inner_cases
  have hrowOuter : row.filterOuterPriority ≠ 15 := by omega
  obtain ⟨htagged, hanyInner⟩ := hrow.anyInner hrowOuter
  have houterTag := hup.outer
  have hinnerTag := hup.inner
  rw [if_neg hrowOuter] at houterTag hinnerTag
  have houterRow : 13 ≤ f.filterOuterPriority → row.filterOuterPriority = 14 := by
    have hcodes := hrow.outer
    omega
  have hinnerRow : 13 ≤ f.filterInnerPriority → row.filterInnerPriority = 14 := by
    have hcodes := hrow.inner
    omega
  have houterRule : row.filterOuterPriority = 14 → f.filterOuterPriority = 14 := by omega
  have hinnerRule : row.filterInnerPriority = 14 → f.filterInnerPriority = 14 := by omega
  rw [innerFilter_eq_iff hmatch hf hrow hinnerTag, outerFilter_eq_iff hmatch hf hrow houterTag]
  constructor
  · intro h
    refine ⟨fun h15 => absurd h15 houter, fun h14 => ?_, fun h8 h14 => ?_⟩
    · obtain ⟨hinner, hvid⟩ := hrow.double (houterRow (by omega))
      have hfirst := h.1 (by omega)
      have hsecond := h.2 (by rw [hinnerRule hinner]; decide)
      have hinnerVid := (hanyInner hinner).2
      exact ⟨by omega, by omega⟩
    · have hsecond := h.2 (by omega)
      have hvid := (hanyInner (hinnerRow (by omega))).2
      omega
  · intro h
    constructor
    · intro hlarge
      have hdefault := houterRow hlarge
      have hrowVid := (hrow.double hdefault).2
      have hvid := (h.double (houterRule hdefault)).1
      exact iff_of_false (by omega) (by omega)
    · intro hlarge
      have hdefault := hinnerRow hlarge
      obtain ⟨hclass, hrowVid⟩ := hanyInner hdefault
      have hvid : 4095 < f.filterInnerVid := by
        by_cases h14 : f.filterOuterPriority = 14
        · exact (h.double h14).2
        · have hcodes := hrow.outer
          exact h.anyInner (by omega) (hinnerRule hdefault)
      exact iff_of_false (by omega) (by omega)

end Filters

section Treatments

/-! ### The treatment -/

variable {f row : VlanFilter} {up : SceAction}

/-- The row discards and removes what the rule asks for. -/
structure RemoveRow (row : VlanFilter) (t : SceTreatment) : Prop where
  discard : t.discardEnable = if row.treatmentTagsToRemove = 3 then 1 else 0
  outer : row.treatmentTagsToRemove ≠ 3 →
    row.filterOuterPriority ≠ 15 ∨ row.filterInnerPriority ≠ 15 →
    t.outerNotGenerate = if 1 ≤ row.treatmentTagsToRemove then 1 else 0
  inner : row.treatmentTagsToRemove ≠ 3 → row.filterOuterPriority ≠ 15 →
    t.innerNotGenerate = if 2 ≤ row.treatmentTagsToRemove then 1 else 0

instance (row : VlanFilter) (t : SceTreatment) : Decidable (RemoveRow row t) :=
  decidable_of_iff
    (t.discardEnable = (if row.treatmentTagsToRemove = 3 then 1 else 0) ∧
      (row.treatmentTagsToRemove ≠ 3 →
        row.filterOuterPriority ≠ 15 ∨ row.filterInnerPriority ≠ 15 →
        t.outerNotGenerate = if 1 ≤ row.treatmentTagsToRemove then 1 else 0) ∧
      (row.treatmentTagsToRemove ≠ 3 → row.filterOuterPriority ≠ 15 →
        t.innerNotGenerate = if 2 ≤ row.treatmentTagsToRemove then 1 else 0))
    ⟨fun ⟨h₁, h₂, h₃⟩ => ⟨h₁, h₂, h₃⟩, fun ⟨h₁, h₂, h₃⟩ => ⟨h₁, h₂, h₃⟩⟩

theorem removeRow : ∀ n, (hn : n < omciRules.length) → n ≠ 14 → n ≠ 16 → n ≠ 21 →
    n ≠ 35 → n ≠ 36 → RemoveRow omciRules[n] (sceRow n).up.treatment := by
  decide +kernel

abbrev VlanFilter.Single (row : VlanFilter) : Prop :=
  row.filterOuterPriority = 15 ∧ row.filterInnerPriority ≠ 15

/-- The only tag to generate comes from the inner fields; on single-tagged frames a copied
priority is the outer one. -/
structure OneTagRow (row : VlanFilter) (t : SceTreatment) : Prop where
  vid : t.tagaVid = tiv
  prio : t.taga = tip ∧ (row.Single → row.treatmentInnerPriority = m07) ∨
    t.taga = 9 ∧ row.Single ∧ row.treatmentInnerPriority = 8 ∨
    t.taga = 10 ∧ row.treatmentInnerPriority = 10

instance (row : VlanFilter) (t : SceTreatment) : Decidable (OneTagRow row t) :=
  decidable_of_iff
    (t.tagaVid = tiv ∧
      (t.taga = tip ∧ (row.Single → row.treatmentInnerPriority = m07) ∨
        t.taga = 9 ∧ row.Single ∧ row.treatmentInnerPriority = 8 ∨
        t.taga = 10 ∧ row.treatmentInnerPriority = 10))
    ⟨fun h => ⟨h.1, h.2⟩, fun h => ⟨h.vid, h.prio⟩⟩

/-- The row generates the tags from the fields that the rule names for them. -/
structure GenerateRow (row : VlanFilter) (t : SceTreatment) : Prop where
  one : row.treatmentOuterPriority = 15 → t.tagb = 15 ∧
    if row.treatmentInnerPriority = 15 then t.taga = 15 else OneTagRow row t
  two : row.treatmentOuterPriority ≠ 15 →
    t.taga = top ∧ t.tagaVid = tov ∧ t.tagb = tip ∧ t.tagbVid = tiv ∧
      (row.Single → row.treatmentOuterPriority = m07 ∧ row.treatmentInnerPriority = m07)

instance (row : VlanFilter) (t : SceTreatment) : Decidable (GenerateRow row t) :=
  decidable_of_iff
    ((row.treatmentOuterPriority = 15 → t.tagb = 15 ∧
        if row.treatmentInnerPriority = 15 then t.taga = 15 else OneTagRow row t) ∧
      (row.treatmentOuterPriority ≠ 15 →
        t.taga = top ∧ t.tagaVid = tov ∧ t.tagb = tip ∧ t.tagbVid = tiv ∧
          (row.Single →
            row.treatmentOuterPriority = m07 ∧ row.treatmentInnerPriority = m07)))
    ⟨fun h => ⟨h.1, h.2⟩, fun h => ⟨h.one, h.two⟩⟩

theorem generateRow : ∀ n, (hn : n < omciRules.length) → n ≠ 14 → n ≠ 16 → n ≠ 21 →
    n ≠ 35 → n ≠ 36 → n ≠ 41 → n ≠ 42 → n ≠ 48 →
    omciRules[n].treatmentTagsToRemove = 3 ∧ omciRules[n].filterOuterPriority = 15 ∨
      GenerateRow omciRules[n] (sceRow n).up.treatment := by
  decide +kernel

/-- The row is none of those that translate some rules wrongly. -/
structure PlainRow (row : VlanFilter) : Prop where
  double : row.filterOuterPriority = 14 → row.treatmentTagsToRemove = 0
  anyInner : row.filterOuterPriority = 8 → row.filterInnerPriority ≠ 14
  newOuter : row.filterOuterPriority = 8 → row.treatmentTagsToRemove = 1 →
    8 ≤ row.treatmentInnerPriority
  swap : row.treatmentOuterPriority ≠ 8

instance (row : VlanFilter) : Decidable (PlainRow row) :=
  decidable_of_iff
    ((row.filterOuterPriority = 14 → row.treatmentTagsToRemove = 0) ∧
      (row.filterOuterPriority = 8 → row.filterInnerPriority ≠ 14) ∧
      (row.filterOuterPriority = 8 → row.treatmentTagsToRemove = 1 →
        8 ≤ row.treatmentInnerPriority) ∧
      row.treatmentOuterPriority ≠ 8)
    ⟨fun ⟨h₁, h₂, h₃, h₄⟩ => ⟨h₁, h₂, h₃, h₄⟩, fun ⟨h₁, h₂, h₃, h₄⟩ => ⟨h₁, h₂, h₃, h₄⟩⟩

theorem plainRow : ∀ n, (hn : n < omciRules.length) → n ≠ 35 → n ≠ 36 → n ≠ 41 → n ≠ 42 →
    n ≠ 48 → PlainRow omciRules[n] := by
  decide +kernel

def hardwareTag (f : VlanFilter) (prioName vidName : Int) : List NewTag :=
  newTag (BitVec.ofInt 4 (mapSceVal f prioName)).toNat
    (BitVec.ofInt 13 (mapSceVal f vidName)).toNat

theorem hardwareTag_eq {prioName vidName prio vid : Int} (hprioName : mapSceVal f prioName = prio)
    (hvidName : mapSceVal f vidName = vid) (hprio : 0 ≤ prio ∧ prio < 16)
    (hvid : 0 ≤ vid ∧ vid < 8192) : hardwareTag f prioName vidName = newTag prio vid := by
  rw [hardwareTag, hprioName, hvidName, toNat_ofInt_of_lt (w := 4) hprio.1 hprio.2,
    toNat_ofInt_of_lt (w := 13) hvid.1 hvid.2]

theorem hardwareTag_none {vidName : Int} : hardwareTag f 15 vidName = [] := by
  have hprio : ((BitVec.ofInt 4 (mapSceVal f 15)).toNat : Int) = 15 := rfl
  rw [hardwareTag, hprio, newTag, if_neg (by decide)]

theorem newTag_ofSingle {prio vid : Int} (hprio : prio ≠ 8) (hvid : vid ≠ 4096) :
    (newTag prio vid).map NewTag.ofSingle = newTag prio vid := by
  have hprioSource : prioSource prio ≠ .receivedInner := by
    rw [prioSource, if_neg hprio]
    split
    · exact nofun
    · split <;> exact nofun
  have hvidSource : vidSource vid ≠ .receivedInner := by
    rw [vidSource, if_neg hvid]
    split <;> exact nofun
  rw [newTag]
  split
  · rw [List.map_singleton, NewTag.ofSingle, if_neg hprioSource, if_neg hvidSource]
  · rfl

theorem newTag_ofSingle_eight {vid : Int} (hvid : vid ≠ 4096) :
    (newTag 8 vid).map NewTag.ofSingle = newTag 9 vid := by
  have hvidSource : vidSource vid ≠ .receivedInner := by
    rw [vidSource, if_neg hvid]
    split <;> exact nofun
  have height : newTag 8 vid = [⟨.receivedInner, vidSource vid⟩] := rfl
  have hnine : newTag 9 vid = [⟨.receivedOuter, vidSource vid⟩] := rfl
  rw [height, hnine, List.map_singleton, NewTag.ofSingle, if_pos rfl, if_neg hvidSource]

theorem VlanFilter.Matches.newOuter_cases (h : row.Matches f) :
    row.treatmentOuterPriority = m07 ∧ f.treatmentOuterPriority ≤ 7 ∨
      row.treatmentOuterPriority ≠ m07 ∧
        f.treatmentOuterPriority = row.treatmentOuterPriority := by
  have hprio := h.treatmentOuterPriority
  rw [priorityMatches] at hprio
  by_cases hm07 : row.treatmentOuterPriority = m07
  · rw [decide_eq_true hm07] at hprio
    exact .inl ⟨hm07, hprio⟩
  · rw [decide_eq_false hm07] at hprio
    exact .inr ⟨hm07, Eq.symm hprio⟩

/-- A rule generates the inner tag with the priority of its row, with a small one or with a
copied one. -/
theorem VlanFilter.Matches.newInner_cases (h : row.Matches f) :
    (row.treatmentInnerPriority = px ∨ row.treatmentInnerPriority = m07) ∧
        f.treatmentInnerPriority ≤ 7 ∨
      (row.treatmentInnerPriority = 8 ∨ row.treatmentInnerPriority = 9) ∧
        (f.treatmentInnerPriority = 8 ∨ f.treatmentInnerPriority = 9) ∨
      f.treatmentInnerPriority = row.treatmentInnerPriority := by
  rcases h.treatmentInnerPriority with hcopied | hcopied | hprio
  · exact .inr (.inl ⟨.inl hcopied.1, .inr hcopied.2⟩)
  · exact .inr (.inl ⟨.inr hcopied.1, .inl hcopied.2⟩)
  · rw [priorityMatches] at hprio
    by_cases hclass : row.treatmentInnerPriority = px ∨ row.treatmentInnerPriority = m07
    · rw [decide_eq_true hclass] at hprio
      exact .inl ⟨hclass, hprio⟩
    · rw [decide_eq_false hclass] at hprio
      exact .inr (.inr (Eq.symm hprio))

theorem VlanFilter.Matches.single_iff (h : row.Matches f) (hrow : DefaultRow row) :
    f.Single ↔ row.Single := by
  have houter := h.outer_cases hrow
  have hinner := h.inner_cases
  have hps : ps = -19 := rfl
  have hpc : pc = -6 := rfl
  constructor
  · intro hsingle
    exact ⟨by omega, by omega⟩
  · intro hsingle
    exact ⟨by omega, by omega⟩

def VlanFilter.frameGenerated (f : VlanFilter) : List NewTag :=
  if f.Single then f.generated.map NewTag.ofSingle else f.generated

def hardwareGenerated (f : VlanFilter) (t : SceTreatment) : List NewTag :=
  hardwareTag f t.taga t.tagaVid ++ hardwareTag f t.tagb t.tagbVid

theorem newTag_fifteen {vid : Int} : newTag 15 vid = [] :=
  if_neg (by decide)

/-- The one tag that a row generates. -/
theorem oneTag_eq {t : SceTreatment} (hmatch : row.Matches f) (hf : f.InRange)
    (hsingle : f.Single ↔ row.Single) (hinner : row.treatmentInnerPriority ≠ 15)
    (hrow : OneTagRow row t) :
    hardwareTag f t.taga t.tagaVid =
      if f.Single then (newTag f.treatmentInnerPriority f.treatmentInnerVid).map NewTag.ofSingle
      else newTag f.treatmentInnerPriority f.treatmentInnerVid := by
  have hpx : px = -7 := rfl
  have hm07 : m07 = -16 := rfl
  have hcases := hmatch.newInner_cases
  have hvid : f.treatmentInnerVid ≠ 4096 := by
    have hle := hmatch.treatmentInnerVid (by omega)
    omega
  rw [hrow.vid]
  rcases hrow.prio with ⟨htaga, hsmall⟩ | ⟨htaga, hrowSingle, height⟩ | ⟨htaga, hten⟩
  · rw [htaga, hardwareTag_eq mapSceVal_tip mapSceVal_tiv hf.treatmentInnerPriority
      hf.treatmentInnerVid]
    by_cases hs : f.Single
    · have hrowSmall := hsmall (hsingle.mp hs)
      rw [if_pos hs, newTag_ofSingle (by omega) hvid]
    · rw [if_neg hs]
  · rw [htaga, hardwareTag_eq (mapSceVal_of_nonneg (by decide)) mapSceVal_tiv (by decide)
      hf.treatmentInnerVid, if_pos (hsingle.mpr hrowSingle)]
    have hcopied : f.treatmentInnerPriority = 8 ∨ f.treatmentInnerPriority = 9 := by omega
    rcases hcopied with hcopied | hcopied
    · rw [hcopied, newTag_ofSingle_eight hvid]
    · rw [hcopied, newTag_ofSingle (by decide) hvid]
  · rw [htaga, hardwareTag_eq (mapSceVal_of_nonneg (by decide)) mapSceVal_tiv (by decide)
      hf.treatmentInnerVid]
    have hdscp : f.treatmentInnerPriority = 10 := by omega
    rw [hdscp, newTag_ofSingle (by decide) hvid, ite_self]

/-- A row generates what the rule asks for. -/
theorem hardwareGenerated_eq {t : SceTreatment} (hmatch : row.Matches f) (hf : f.InRange)
    (hsingle : f.Single ↔ row.Single) (hrow : GenerateRow row t) :
    hardwareGenerated f t = f.frameGenerated := by
  have hpx : px = -7 := rfl
  have hm07 : m07 = -16 := rfl
  have houterCases := hmatch.newOuter_cases
  have hinnerCases := hmatch.newInner_cases
  rw [hardwareGenerated, VlanFilter.frameGenerated, VlanFilter.generated]
  by_cases houter : row.treatmentOuterPriority = 15
  · obtain ⟨htagb, hone⟩ := hrow.one houter
    have hnone : f.treatmentOuterPriority = 15 := by omega
    rw [htagb, hardwareTag_none, List.append_nil, hnone, newTag_fifteen, List.nil_append]
    by_cases hinner : row.treatmentInnerPriority = 15
    · rw [if_pos hinner] at hone
      have hnone' : f.treatmentInnerPriority = 15 := by omega
      rw [hone, hardwareTag_none, hnone', newTag_fifteen, List.map_nil, ite_self]
    · rw [if_neg hinner] at hone
      exact oneTag_eq hmatch hf hsingle hinner hone
  · obtain ⟨htaga, htagaVid, htagb, htagbVid, hsmall⟩ := hrow.two houter
    rw [htaga, htagaVid, htagb, htagbVid,
      hardwareTag_eq mapSceVal_top mapSceVal_tov hf.treatmentOuterPriority hf.treatmentOuterVid,
      hardwareTag_eq mapSceVal_tip mapSceVal_tiv hf.treatmentInnerPriority hf.treatmentInnerVid]
    by_cases hs : f.Single
    · obtain ⟨houterSmall, hinnerSmall⟩ := hsmall (hsingle.mp hs)
      have houterVid := hmatch.treatmentOuterVid (by omega)
      have hinnerVid := hmatch.treatmentInnerVid (by omega)
      rw [if_pos hs, List.map_append, newTag_ofSingle (by omega) (by omega),
        newTag_ofSingle (by omega) (by omega)]
    · rw [if_neg hs]

theorem hardwareOperation_treatment {b : Bool} (h : UpRow row up) :
    (hardwareOperation (ruleTables b up f).1 (ruleTables b up f).2).treatment =
        if bit up.treatment.discardEnable then .discard
        else
          .forward ((bit up.oneEnable || bit up.twoEnable) && bit up.treatment.outerNotGenerate)
            (bit up.twoEnable && bit up.treatment.innerNotGenerate)
            (hardwareGenerated f up.treatment) := by
  simp only [hardwareOperation, ruleTables, h.applies, Bool.true_and, if_true,
    hardwareGenerated, hardwareTag]

/-- What the rule does to its frames. -/
theorem operation_treatment (f : VlanFilter) :
    f.operation.treatment =
      if f.treatmentTagsToRemove = 3 then .discard
      else
        .forward ((f.filterOuterPriority ≠ 15 ∨ f.filterInnerPriority ≠ 15) ∧
            1 ≤ f.treatmentTagsToRemove)
          (f.filterOuterPriority ≠ 15 ∧ 2 ≤ f.treatmentTagsToRemove) f.frameGenerated := by
  rw [VlanFilter.operation, VlanFilter.frameGenerated]
  by_cases houter : f.filterOuterPriority = 15
  · by_cases hinner : f.filterInnerPriority = 15
    · have hsingle : ¬f.Single := fun hs => hs.2 hinner
      rw [if_pos houter, if_pos hinner, if_neg hsingle]
      simp [houter, hinner]
    · have hsingle : f.Single := ⟨houter, hinner⟩
      rw [if_pos houter, if_neg hinner, if_pos hsingle]
      simp [houter, hinner]
  · have hsingle : ¬f.Single := fun hs => houter hs.1
    rw [if_neg houter, if_neg hsingle]
    simp [houter]

/-- With a row that discards and removes as it has to, the treatments differ in the generated
tags at most. -/
theorem treatment_eq_iff {b : Bool} (hmatch : row.Matches f) (hrow : DefaultRow row)
    (hup : UpRow row up) (hremove : RemoveRow row up.treatment) :
    (hardwareOperation (ruleTables b up f).1
        (ruleTables b up f).2).treatment = f.operation.treatment ↔
      f.treatmentTagsToRemove = 3 ∨ hardwareGenerated f up.treatment = f.frameGenerated := by
  have hps : ps = -19 := rfl
  have hpc : pc = -6 := rfl
  have houterCases := hmatch.outer_cases hrow
  have hinnerCases := hmatch.inner_cases
  have houter : row.filterOuterPriority = 15 ↔ f.filterOuterPriority = 15 := by omega
  have hinner : row.filterInnerPriority = 15 ↔ f.filterInnerPriority = 15 := by omega
  have hcount := hmatch.tagsToRemove
  rw [hardwareOperation_treatment hup, operation_treatment, hremove.discard, hcount]
  by_cases hdiscard : f.treatmentTagsToRemove = 3
  · rw [if_pos hdiscard, if_pos hdiscard, if_pos bit_one]
    exact ⟨fun _ => .inl hdiscard, fun _ => rfl⟩
  · have hremoveOuter : ((bit up.oneEnable || bit up.twoEnable) &&
        bit up.treatment.outerNotGenerate) =
        decide ((f.filterOuterPriority ≠ 15 ∨ f.filterInnerPriority ≠ 15) ∧
          1 ≤ f.treatmentTagsToRemove) := by
      rw [hup.one, hup.two, bit_ite, bit_ite, ← Bool.decide_or]
      by_cases htagged : f.filterOuterPriority ≠ 15 ∨ f.filterInnerPriority ≠ 15
      · rw [hremove.outer (by omega) (by omega), hcount, bit_ite, ← Bool.decide_and]
        exact decide_eq_decide.mpr (by omega)
      · have hvoid : ¬(row.filterOuterPriority = 15 ∧ row.filterInnerPriority ≠ 15 ∨
            row.filterOuterPriority ≠ 15) := by omega
        have hnone : ¬((f.filterOuterPriority ≠ 15 ∨ f.filterInnerPriority ≠ 15) ∧
            1 ≤ f.treatmentTagsToRemove) := by omega
        rw [decide_eq_false hvoid, decide_eq_false hnone, Bool.false_and]
    have hremoveInner : (bit up.twoEnable && bit up.treatment.innerNotGenerate) =
        decide (f.filterOuterPriority ≠ 15 ∧ 2 ≤ f.treatmentTagsToRemove) := by
      rw [hup.two, bit_ite]
      by_cases hdouble : row.filterOuterPriority ≠ 15
      · rw [hremove.inner (by omega) hdouble, hcount, bit_ite, ← Bool.decide_and]
        exact decide_eq_decide.mpr (by omega)
      · have hnone : ¬(f.filterOuterPriority ≠ 15 ∧ 2 ≤ f.treatmentTagsToRemove) := by omega
        rw [decide_eq_false hdouble, decide_eq_false hnone, Bool.false_and]
    rw [if_neg hdiscard, if_neg hdiscard, if_neg bit_zero, hremoveOuter, hremoveInner]
    simp [hdiscard]

end Treatments

section Rows

variable {f row : VlanFilter} {up : SceAction}

/-- The number of tags is the one of the rule. -/
theorem hardwareOperation_tags {b : Bool} (hmatch : row.Matches f)
    (hrow : DefaultRow row) (hup : UpRow row up) : (hardwareOperation (ruleTables b up f).1
        (ruleTables b up f).2).untagged = f.operation.untagged ∧
      (hardwareOperation (ruleTables b up f).1 (ruleTables b up f).2).single = f.operation.single ∧
      (hardwareOperation (ruleTables b up f).1
        (ruleTables b up f).2).double = f.operation.double := by
  have hps : ps = -19 := rfl
  have hpc : pc = -6 := rfl
  have houterCases := hmatch.outer_cases hrow
  have hinnerCases := hmatch.inner_cases
  simp only [hardwareOperation, ruleTables, hup.zero, hup.one, hup.two,
    bit_ite]
  rw [VlanFilter.operation]
  by_cases houter : f.filterOuterPriority = 15
  · have hrowOuter : row.filterOuterPriority = 15 := by omega
    rw [if_pos houter]
    by_cases hinner : f.filterInnerPriority = 15
    · have hrowInner : row.filterInnerPriority = 15 := by omega
      rw [if_pos hinner]
      simp [hrowOuter, hrowInner]
    · have hrowInner : row.filterInnerPriority ≠ 15 := by omega
      rw [if_neg hinner]
      simp [hrowOuter, hrowInner]
  · have hrowOuter : row.filterOuterPriority ≠ 15 := by omega
    rw [if_neg houter]
    simp [hrowOuter]

/-- What is compared is what the rule names, up to the default rows. -/
theorem hardwareOperation_filters_iff {b : Bool} (hmatch : row.Matches f)
    (hf : f.InRange) (hrow : DefaultRow row) (hup : UpRow row up) :
    (hardwareOperation (ruleTables b up f).1 (ruleTables b up f).2).outer = f.operation.outer ∧
      (hardwareOperation (ruleTables b up f).1
        (ruleTables b up f).2).inner = f.operation.inner ↔ FiltersFaithful f := by
  have hps : ps = -19 := rfl
  have hpc : pc = -6 := rfl
  have houterCases := hmatch.outer_cases hrow
  have hinnerCases := hmatch.inner_cases
  rw [hardwareOperation_outer hup, hardwareOperation_inner hup, VlanFilter.operation]
  by_cases houter : f.filterOuterPriority = 15
  · have hrowOuter : row.filterOuterPriority = 15 := by omega
    rw [if_pos houter]
    by_cases hinner : f.filterInnerPriority = 15
    · have hrowInner : row.filterInnerPriority = 15 := by omega
      have hvoidOuter := hup.outer
      have hvoidInner := hup.inner
      rw [if_pos hrowOuter, if_pos hrowInner] at hvoidOuter
      rw [if_pos hrowOuter] at hvoidInner
      rw [if_pos hinner, hardwareFilter, hardwareFilter, hvoidOuter.1, hvoidOuter.2,
        hvoidInner.1, hvoidInner.2, if_neg bit_zero, if_neg bit_zero]
      constructor
      · intro _
        exact ⟨fun _ h14 => absurd h14 (by omega), fun h14 => absurd h14 (by omega),
          fun h8 => absurd h8 (by omega)⟩
      · intro _
        exact ⟨rfl, rfl⟩
    · rw [if_neg hinner]
      exact singleFilters_iff hmatch hf hrow hup houter hinner
  · rw [if_neg houter]
    exact doubleFilters_iff hmatch hf hrow hup houter

/-- The treatment of a rule is translated as it is meant. -/
structure TreatmentFaithful (f : VlanFilter) : Prop where
  double : f.filterOuterPriority = 14 → f.treatmentTagsToRemove = 0
  anyInner : f.filterOuterPriority = 8 → f.filterInnerPriority = 14 →
    f.treatmentOuterVid = f.treatmentInnerVid
  newOuter : f.filterOuterPriority = 8 → f.treatmentTagsToRemove = 1 →
    7 < f.treatmentInnerPriority
  swap : f.treatmentOuterPriority = 8 →
    f.treatmentOuterVid = f.filterInnerVid ∧ f.treatmentInnerVid = f.filterOuterVid ∧
      f.treatmentInnerPriority = 9

theorem usFaithful_iff : UsFaithful f ↔ FiltersFaithful f ∧ TreatmentFaithful f := by
  constructor
  · intro h
    exact ⟨⟨h.single, fun h14 => (h.double h14).2, fun h8 h14 => (h.anyInner h8 h14).1⟩,
      ⟨fun h14 => (h.double h14).1, fun h8 h14 => (h.anyInner h8 h14).2, h.newOuter, h.swap⟩⟩
  · intro h
    exact
      { single := h.1.single
        double := fun h14 => ⟨h.2.double h14, h.1.double h14⟩
        anyInner := fun h8 h14 => ⟨h.1.anyInner h8 h14, h.2.anyInner h8 h14⟩
        newOuter := h.2.newOuter
        swap := h.2.swap }

/-- A plain row is only matched by rules whose treatment is translated as it is meant. -/
theorem PlainRow.treatmentFaithful (h : PlainRow row) (hmatch : row.Matches f)
    (hrow : DefaultRow row) : TreatmentFaithful f := by
  have houter : 7 < f.filterOuterPriority →
      row.filterOuterPriority = f.filterOuterPriority := by
    have hcases := hmatch.outer_cases hrow
    omega
  have hinner : 7 < f.filterInnerPriority →
      row.filterInnerPriority = f.filterInnerPriority := by
    have hcases := hmatch.inner_cases
    omega
  have hnewOuter : 7 < f.treatmentOuterPriority →
      row.treatmentOuterPriority = f.treatmentOuterPriority := by
    have hcases := hmatch.newOuter_cases
    omega
  have hnewInner : 8 ≤ row.treatmentInnerPriority → 7 < f.treatmentInnerPriority := by
    have hpx : px = -7 := rfl
    have hm07 : m07 = -16 := rfl
    have hcases := hmatch.newInner_cases
    omega
  constructor
  · intro h14
    rw [← hmatch.tagsToRemove]
    exact h.double ((houter (by omega)).trans h14)
  · intro h8 h14
    exact absurd ((hinner (by omega)).trans h14) (h.anyInner ((houter (by omega)).trans h8))
  · intro h8 hone
    exact hnewInner (h.newOuter ((houter (by omega)).trans h8)
      (hmatch.tagsToRemove.trans hone))
  · intro h8
    exact absurd ((hnewOuter (by omega)).trans h8) h.swap

theorem found_row {n : Nat} (hfound : findExtVlanRule f = some n) (hf : f.InRange) :
    ∃ hn : n < omciRules.length, omciRules[n].Matches f ∧ n ≠ 14 ∧ n ≠ 16 ∧ n ≠ 21 := by
  obtain ⟨⟨row, hrow, hmatch⟩, hunique⟩ := findExtVlanRule_eq_some_iff.mp hfound
  obtain ⟨hn, hget⟩ := List.getElem?_eq_some_iff.mp hrow
  have hpair : ∀ k, k = 14 ∨ k = 21 → n ≠ k := by
    intro k hk hnk
    rw [hnk] at hrow
    obtain ⟨other, hother, hmatchOther⟩ := matches_pair hk hrow hmatch
    have hsame := hunique (k + 1) other hother hmatchOther
    omega
  refine ⟨hn, hget ▸ hmatch, hpair 14 (.inl rfl), ?_, hpair 21 (.inr rfl)⟩
  intro h16
  exact not_matches_sixteen (h16 ▸ hrow) hf.filterInnerVid.1 hmatch

theorem newTag_eq_iff {prio vid prio' vid' : Int} (hprio : prio ≤ 10) (hprio' : prio' ≤ 10) :
    newTag prio vid = newTag prio' vid' ↔ prio = prio' ∧ vid = vid' := by
  have hprioSource : prioSource prio = prioSource prio' ↔ prio = prio' := by
    constructor
    · intro hsame
      unfold prioSource at hsame
      split_ifs at hsame <;> simp_all
    · exact congrArg prioSource
  have hvidSource : vidSource vid = vidSource vid' ↔ vid = vid' := by
    constructor
    · intro hsame
      unfold vidSource at hsame
      split_ifs at hsame <;> simp_all
    · exact congrArg vidSource
  rw [newTag, newTag, if_pos hprio, if_pos hprio', List.cons_eq_cons, NewTag.mk.injEq,
    hprioSource, hvidSource]
  exact and_iff_left rfl

theorem newOuter_small (hmatch : omciRules[41].Matches f) : f.treatmentInnerPriority ≤ 7 := by
  rcases hmatch.treatmentInnerPriority with hcopied | hcopied | hprio
  · exact absurd hcopied.1 (by decide)
  · exact absurd hcopied.1 (by decide)
  · exact hprio

/-- The row for a new outer tag with a new priority generates no tag. -/
theorem not_generated_newOuter (hmatch : omciRules[41].Matches f) :
    hardwareGenerated f (sceRow 41).up.treatment ≠ f.frameGenerated := by
  have houter : (8 : Int) = f.filterOuterPriority := hmatch.outerPriority
  have hnewOuter : (15 : Int) = f.treatmentOuterPriority := hmatch.treatmentOuterPriority
  have hsmall := newOuter_small hmatch
  have hsingle : ¬f.Single := fun hs => by
    have h15 := hs.1
    omega
  have hnone : hardwareGenerated f (sceRow 41).up.treatment = [] := by
    have htaga : mapSceVal f top = 15 := hnewOuter.symm
    have hprio : ((BitVec.ofInt 4 (mapSceVal f top)).toNat : Int) = 15 := by
      rw [htaga]
      rfl
    have htag : hardwareTag f top tov = [] := by
      rw [hardwareTag, hprio, newTag_fifteen]
    have htreatment : hardwareGenerated f (sceRow 41).up.treatment =
        hardwareTag f top tov ++ hardwareTag f 15 0 := rfl
    rw [htreatment, htag, hardwareTag_none, List.append_nil]
  rw [hnone, VlanFilter.frameGenerated, if_neg hsingle, VlanFilter.generated, ← hnewOuter,
    newTag_fifteen, List.nil_append, newTag, if_pos (by omega)]
  exact (List.cons_ne_nil _ _).symm

/-- The row for any inner tag takes the VID from the unused field. -/
theorem generated_anyInner_iff (hmatch : omciRules[42].Matches f) (hf : f.InRange) :
    hardwareGenerated f (sceRow 42).up.treatment = f.frameGenerated ↔
      f.treatmentOuterVid = f.treatmentInnerVid := by
  have houter : (8 : Int) = f.filterOuterPriority := hmatch.outerPriority
  have hnewOuter : (15 : Int) = f.treatmentOuterPriority := hmatch.treatmentOuterPriority
  have hcopied := hmatch.copied (.inr rfl)
  have hsingle : ¬f.Single := fun hs => by
    have h15 := hs.1
    omega
  have htreatment : hardwareGenerated f (sceRow 42).up.treatment =
      hardwareTag f tip tov ++ hardwareTag f 15 0 := rfl
  rw [htreatment, hardwareTag_none, List.append_nil,
    hardwareTag_eq mapSceVal_tip mapSceVal_tov hf.treatmentInnerPriority hf.treatmentOuterVid,
    VlanFilter.frameGenerated, if_neg hsingle, VlanFilter.generated, ← hnewOuter,
    newTag_fifteen, List.nil_append, newTag_eq_iff (by omega) (by omega)]
  exact and_iff_right rfl

/-- The row that swaps two tags takes the VIDs from the filter and the priorities as copied. -/
theorem generated_swap_iff (hmatch : omciRules[48].Matches f) (hf : f.InRange) :
    hardwareGenerated f (sceRow 48).up.treatment = f.frameGenerated ↔
      f.treatmentOuterVid = f.filterInnerVid ∧ f.treatmentInnerVid = f.filterOuterVid ∧
        f.treatmentInnerPriority = 9 := by
  have houter : (8 : Int) = f.filterOuterPriority := hmatch.outerPriority
  have hnewOuter : (8 : Int) = f.treatmentOuterPriority := hmatch.treatmentOuterPriority
  have hcopied := hmatch.copied (.inr rfl)
  have hsingle : ¬f.Single := fun hs => by
    have h15 := hs.1
    omega
  have htreatment : hardwareGenerated f (sceRow 48).up.treatment =
      hardwareTag f 8 fiv ++ hardwareTag f 9 fov := rfl
  have hlength : ∀ vid vid' : Int, (newTag 8 vid).length = (newTag 8 vid').length :=
    fun _ _ => rfl
  rw [htreatment,
    hardwareTag_eq (mapSceVal_of_nonneg (by decide)) mapSceVal_fiv (by decide) hf.filterInnerVid,
    hardwareTag_eq (mapSceVal_of_nonneg (by decide)) mapSceVal_fov (by decide) hf.filterOuterVid,
    VlanFilter.frameGenerated, if_neg hsingle, VlanFilter.generated, ← hnewOuter]
  constructor
  · intro h
    obtain ⟨hfirst, hsecond⟩ := List.append_inj h (hlength _ _)
    obtain ⟨-, hvid⟩ := (newTag_eq_iff (by decide) (by decide)).mp hfirst
    obtain ⟨hprio, hvid'⟩ := (newTag_eq_iff (by decide) (by omega)).mp hsecond
    exact ⟨hvid.symm, hvid'.symm, hprio.symm⟩
  · intro h
    rw [h.1, h.2.1, h.2.2]

/-- Outside the double-tagged drop rows the treatment is the one of the rule exactly if it is
faithful. -/
theorem generated_iff {n : Nat} (hn : n < omciRules.length) (hmatch : omciRules[n].Matches f)
    (hf : f.InRange) (h14 : n ≠ 14) (h16 : n ≠ 16) (h21 : n ≠ 21) (h35 : n ≠ 35) (h36 : n ≠ 36) :
    f.treatmentTagsToRemove = 3 ∨
        hardwareGenerated f (sceRow n).up.treatment = f.frameGenerated ↔
      TreatmentFaithful f := by
  have hrow := defaultRow n hn h16
  by_cases h41 : n = 41
  · subst h41
    have hcount : (1 : Int) = f.treatmentTagsToRemove := hmatch.tagsToRemove
    have houter : (8 : Int) = f.filterOuterPriority := hmatch.outerPriority
    have hsmall := newOuter_small hmatch
    constructor
    · rintro (hthree | hsame)
      · omega
      · exact absurd hsame (not_generated_newOuter hmatch)
    · intro h
      have hlarge := h.newOuter houter.symm hcount.symm
      omega
  by_cases h42 : n = 42
  · subst h42
    have hcount : (1 : Int) = f.treatmentTagsToRemove := hmatch.tagsToRemove
    have houter : (8 : Int) = f.filterOuterPriority := hmatch.outerPriority
    have hinner : (14 : Int) = f.filterInnerPriority := hmatch.innerPriority
    have hnewOuter : (15 : Int) = f.treatmentOuterPriority := hmatch.treatmentOuterPriority
    have hcopied : 7 < f.treatmentInnerPriority := by
      rcases hmatch.treatmentInnerPriority with hprio | hprio | hprio
      · omega
      · omega
      · have hnine : (9 : Int) = f.treatmentInnerPriority := hprio
        omega
    rw [generated_anyInner_iff hmatch hf]
    constructor
    · rintro (hthree | hsame)
      · omega
      · exact ⟨fun hdouble => by omega, fun _ _ => hsame, fun _ _ => hcopied,
          fun hswap => by omega⟩
    · intro h
      exact .inr (h.anyInner houter.symm hinner.symm)
  by_cases h48 : n = 48
  · subst h48
    have hcount : (2 : Int) = f.treatmentTagsToRemove := hmatch.tagsToRemove
    have houter : (8 : Int) = f.filterOuterPriority := hmatch.outerPriority
    have hinner : (8 : Int) = f.filterInnerPriority := hmatch.innerPriority
    have hnewOuter : (8 : Int) = f.treatmentOuterPriority := hmatch.treatmentOuterPriority
    rw [generated_swap_iff hmatch hf]
    constructor
    · rintro (hthree | hsame)
      · omega
      · exact ⟨fun hdouble => by omega, fun _ hany => by omega, fun _ hone => by omega,
          fun _ => hsame⟩
    · intro h
      exact .inr (h.swap hnewOuter.symm)
  have hplain := (plainRow n hn h35 h36 h41 h42 h48).treatmentFaithful hmatch hrow
  refine ⟨fun _ => hplain, fun _ => ?_⟩
  rcases generateRow n hn h14 h16 h21 h35 h36 h41 h42 h48 with hdiscard | hgenerate
  · exact .inl (hmatch.tagsToRemove.symm.trans hdiscard.1)
  · exact .inr (hardwareGenerated_eq hmatch hf (hmatch.single_iff hrow) hgenerate)

/-- The double-tagged drop rules are forwarded. -/
theorem not_discarded {n : Nat} {b : Bool} (hn : n < omciRules.length)
    (hmatch : omciRules[n].Matches f) (hdrop : n = 35 ∨ n = 36) :
    (hardwareOperation (ruleTables b (sceRow n).up f).1
        (ruleTables b (sceRow n).up f).2).treatment ≠ f.operation.treatment ∧
      ¬TreatmentFaithful f := by
  have hcount : f.treatmentTagsToRemove = 3 := by
    rcases hdrop with rfl | rfl <;> exact hmatch.tagsToRemove.symm
  have houter : f.filterOuterPriority = 14 := by
    rcases hdrop with rfl | rfl <;> exact Eq.symm hmatch.outerPriority
  have hforward : (sceRow n).up.treatment.discardEnable = 0 := by
    rcases hdrop with rfl | rfl <;> rfl
  have hup := upRow n hn (by omega) (by omega) (by omega)
  constructor
  · rw [hardwareOperation_treatment hup, operation_treatment, hforward, if_neg bit_zero,
      if_pos hcount]
    exact nofun
  · intro h
    have hzero := h.double houter
    omega

end Rows

theorem hardwareOperation_ethertype {p : Prop} [Decidable p] (r : GpeVlanRuleTable)
    (t : GpeVlanTreatmentTable) :
    hardwareOperation (if p then r else { r with ethertypeFilterEnable := 0 }) t =
      hardwareOperation r t := by
  split <;> rfl

/-- The upstream translation of a rule means what the rule means exactly if the rule is
faithful. -/
theorem usMap_faithful_iff (e : RxVlanOperTable) (n : Nat) (custom : ExtVlanCustom)
    (dev : Bool × Bool) (hfound : findExtVlanRule e.filter = some n) :
    hardwareOperation (ruleUsMap n custom dev e.filter).rule
        (ruleUsMap n custom dev e.filter).treatment = e.filter.operation ↔
      UsFaithful e.filter := by
  have hf := e.filter_inRange
  obtain ⟨hn, hmatch, h14, h16, h21⟩ := found_row hfound hf
  have hrow := defaultRow n hn h16
  have hup := upRow n hn h14 h16 h21
  have htags := hardwareOperation_tags (b := true) hmatch hrow hup
  have hfilters := hardwareOperation_filters_iff (b := true) hmatch hf hrow hup
  have htables : hardwareOperation (ruleUsMap n custom dev e.filter).rule
      (ruleUsMap n custom dev e.filter).treatment =
      hardwareOperation (ruleTables true (sceRow n).up e.filter).1
        (ruleTables true (sceRow n).up e.filter).2 := by
    rw [ruleUsMap, ruleMap]
    exact hardwareOperation_ethertype _ _
  rw [htables, TagOperation.ext_iff, usFaithful_iff]
  rw [← hfilters]
  by_cases hdrop : n = 35 ∨ n = 36
  · obtain ⟨htreatment, hunfaithful⟩ :=
      not_discarded (b := true) hn hmatch hdrop
    constructor
    · intro h
      exact absurd h.2.2.2.2.2 htreatment
    · intro h
      exact absurd h.2 hunfaithful
  · have hremove := removeRow n hn h14 h16 h21 (by omega) (by omega)
    rw [treatment_eq_iff hmatch hrow hup hremove,
      generated_iff hn hmatch hf h14 h16 h21 (by omega) (by omega)]
    constructor
    · intro h
      exact ⟨⟨h.2.2.2.1, h.2.2.2.2.1⟩, h.2.2.2.2.2⟩
    · intro h
      exact ⟨htags.1, htags.2.1, htags.2.2, h.1.1, h.1.2, h.2⟩

/-- The default rule of the table that drops all double-tagged frames. -/
def dropDoubleTagged : RxVlanOperTable where
  filterOuterPrio := 14
  filterOuterVid := 4096
  filterOuterTpidDe := 0
  word1Padding := 0
  filterInnerPrio := 14
  filterInnerVid := 4096
  filterInnerTpidDe := 0
  word2Padding := 0
  filterEtherType := 0
  treatmentTagsRemove := 3
  word3Padding := 0
  treatmentOuterPrio := 15
  treatmentOuterVid := 4096
  treatmentOuterTpidDe := 0
  word4Padding := 0
  treatmentInnerPrio := 15
  treatmentInnerVid := 4096
  treatmentInnerTpidDe := 0

/-- The rule is found, and it is not faithful. -/
theorem usMap_faithful_iff_dropDoubleTagged :
    findExtVlanRule dropDoubleTagged.filter = some 35 ∧
      (hardwareOperation (ruleUsMap 35 [] (true, true) dropDoubleTagged.filter).rule
          (ruleUsMap 35 [] (true, true) dropDoubleTagged.filter).treatment =
        dropDoubleTagged.filter.operation ↔ UsFaithful dropDoubleTagged.filter) :=
  ⟨by decide +kernel, usMap_faithful_iff dropDoubleTagged 35 [] (true, true) (by decide +kernel)⟩

/-- The rule that drops all double-tagged frames is translated into one that forwards them. -/
theorem not_usMap_faithful :
    ¬∀ (e : RxVlanOperTable) (n : Nat) (custom : ExtVlanCustom) (dev : Bool × Bool),
      findExtVlanRule e.filter = some n →
        hardwareOperation (ruleUsMap n custom dev e.filter).rule
          (ruleUsMap n custom dev e.filter).treatment = e.filter.operation := by
  intro hfaithful
  have hsame := hfaithful dropDoubleTagged 35 [] (true, true) (by decide +kernel)
  exact absurd (congrArg TagOperation.treatment hsame) (by decide +kernel)

end FalconGpon.Vlan
