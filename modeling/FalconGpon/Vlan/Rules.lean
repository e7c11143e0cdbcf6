/-
# VLAN rules and their translation

A rule of the Extended VLAN ME has sixteen bytes: a filter and a treatment. It is translated
into a rule and a treatment of the hardware with two parallel tables: the row of `omciRules`
that matches the rule selects the row of `sceRules` that says which fields of the hardware to
enable and where their values come from.

The tables hold numbers; negative ones stand for classes of values (`vidc`, `m07`) and for
fields of the rule to copy (`tip`, `fov`).
-/

import FalconGpon.Api.Mapper

namespace FalconGpon.Vlan

open FalconGpon.Api

/-- `struct omci_rx_vlan_oper_table`. -/
structure RxVlanOperTable where
  filterOuterPrio : BitVec 4
  filterOuterVid : BitVec 13
  filterOuterTpidDe : BitVec 3
  word1Padding : BitVec 12
  filterInnerPrio : BitVec 4
  filterInnerVid : BitVec 13
  filterInnerTpidDe : BitVec 3
  word2Padding : BitVec 8
  filterEtherType : BitVec 4
  treatmentTagsRemove : BitVec 2
  word3Padding : BitVec 10
  treatmentOuterPrio : BitVec 4
  treatmentOuterVid : BitVec 13
  treatmentOuterTpidDe : BitVec 3
  word4Padding : BitVec 12
  treatmentInnerPrio : BitVec 4
  treatmentInnerVid : BitVec 13
  treatmentInnerTpidDe : BitVec 3
deriving DecidableEq

/-- `struct vlan_filter`. -/
structure VlanFilter where
  filterOuterPriority : Int
  filterOuterVid : Int
  filterOuterTpidDe : Int
  filterInnerPriority : Int
  filterInnerVid : Int
  filterInnerTpidDe : Int
  filterEthertype : Int
  treatmentTagsToRemove : Int
  treatmentOuterPriority : Int
  treatmentOuterVid : Int
  treatmentOuterTpidDe : Int
  treatmentInnerPriority : Int
  treatmentInnerVid : Int
  treatmentInnerTpidDe : Int
deriving DecidableEq

/-- The fields that are handed to the hardware. -/
def RxVlanOperTable.filter (e : RxVlanOperTable) : VlanFilter where
  filterOuterPriority := e.filterOuterPrio.toNat
  filterOuterVid := e.filterOuterVid.toNat
  filterOuterTpidDe := e.filterOuterTpidDe.toNat
  filterInnerPriority := e.filterInnerPrio.toNat
  filterInnerVid := e.filterInnerVid.toNat
  filterInnerTpidDe := e.filterInnerTpidDe.toNat
  filterEthertype := e.filterEtherType.toNat
  treatmentTagsToRemove := e.treatmentTagsRemove.toNat
  treatmentOuterPriority := e.treatmentOuterPrio.toNat
  treatmentOuterVid := e.treatmentOuterVid.toNat
  treatmentOuterTpidDe := e.treatmentOuterTpidDe.toNat
  treatmentInnerPriority := e.treatmentInnerPrio.toNat
  treatmentInnerVid := e.treatmentInnerVid.toNat
  treatmentInnerTpidDe := e.treatmentInnerTpidDe.toNat

section Values

/-! The values of the tables that are not numbers of the rule. -/

abbrev na : Int := -1
abbrev vidc : Int := -2
abbrev vids : Int := -3
abbrev vidx : Int := -4
abbrev vidy : Int := -5
abbrev pc : Int := -6
abbrev px : Int := -7
abbrev m467 : Int := -14
abbrev m02467 : Int := -15
abbrev m07 : Int := -16
abbrev DEF : Int := -18
abbrev ps : Int := -19
abbrev m04 : Int := -21
abbrev m14 : Int := -22
abbrev tip : Int := -30
abbrev tiv : Int := -31
abbrev tit : Int := -32
abbrev tot : Int := -33
abbrev top : Int := -34
abbrev fip : Int := -35
abbrev fiv : Int := -36
abbrev fop : Int := -37
abbrev tov : Int := -38
abbrev fov : Int := -39

end Values

/-- `struct sce_rule`, as far as it is read. -/
structure SceRule where
  priorityEnable : Int
  priorityFilter : Int
  vidEnable : Int
  vidFilter : Int

/-- `struct sce_treatment`. -/
structure SceTreatment where
  taga : Int
  tagaVid : Int
  tagaTpid : Int
  tagb : Int
  tagbVid : Int
  tagbTpid : Int
  discardEnable : Int
  outerNotGenerate : Int
  innerNotGenerate : Int

/-- `struct sce_action`, as far as it is read. -/
structure SceAction where
  zeroEnable : Int
  oneEnable : Int
  twoEnable : Int
  outer : SceRule
  inner : SceRule
  def' : Int
  treatment : SceTreatment

/-- `struct sce_rules`. -/
structure SceRules where
  up : SceAction
  down : SceAction

/-- `omci_rules`: the filters of the upstream rows, which are the only ones read. -/
def omciRules : List VlanFilter :=
  [ -- untagged frames
    ⟨15, 4096, 0, 15, 4096, 0, 0, 0, 15, na, na, 15, na, na⟩,
    ⟨15, 4096, 0, 15, 4096, 0, m14, 0, 15, na, na, 15, na, na⟩,
    ⟨15, 4096, 0, 15, 4096, 0, 0, 3, 15, 4096, 0, 15, 4096, 0⟩,
    ⟨15, 4096, 0, 15, 4096, 0, m14, 3, 15, 4096, 0, 15, 4096, 0⟩,
    ⟨15, 4096, 0, 15, 4096, 0, 0, 0, 15, na, na, m07, vidx, m467⟩,
    ⟨15, 4096, 0, 15, 4096, 0, 0, 0, 15, na, na, 10, vidx, m467⟩,
    ⟨15, 4096, 0, 15, 4096, 0, m14, 0, 15, na, na, m07, vidx, m467⟩,
    ⟨15, 4096, 0, 15, 4096, 0, 0, 0, m07, vidy, m467, m07, vidx, m467⟩,
    ⟨15, 4096, 0, 15, 4096, 0, m14, 0, m07, vidy, m467, m07, vidx, m467⟩,
    -- single-tagged frames
    ⟨15, 4096, 0, 14, 4096, 0, 0, 0, 15, na, na, 15, na, na⟩,
    ⟨15, 4096, 0, 14, 4096, 0, m14, 0, 15, na, na, 15, na, na⟩,
    ⟨15, 4096, 0, 14, 4096, 0, 0, 3, 15, 4096, 0, 15, 4096, 0⟩,
    ⟨15, 4096, 0, 14, 4096, 0, m14, 3, 15, 4096, 0, 15, 4096, 0⟩,
    ⟨15, 4096, 0, 8, 4096, 0, m04, 0, 15, na, na, m07, vidx, m02467⟩,
    ⟨15, 4096, 0, 8, 4096, 4, m04, 3, 15, 4096, 0, 15, 4096, 0⟩,
    ⟨15, 4096, 0, 8, 4096, 6, m04, 3, 15, 4096, 0, 15, 4096, 0⟩,
    ⟨15, 4096, 0, 8, vids, 6, m04, 3, 15, 4096, 0, 15, 4096, 0⟩,
    ⟨15, 4096, 0, 8, vidc, 0, m04, 0, 15, na, na, m07, vidx, m02467⟩,
    ⟨15, 4096, 0, 8, vidc, 0, m04, 0, 15, na, na, 8, vidx, m02467⟩,
    ⟨15, 4096, 0, 8, vidc, 0, m04, 0, 15, na, na, 10, vidx, m02467⟩,
    ⟨15, 4096, 0, 8, vidc, 0, m04, 1, 15, na, na, 10, vidx, m02467⟩,
    ⟨15, 4096, 0, 8, vidc, 0, m04, 0, m07, vidy, m02467, m07, vidx, m02467⟩,
    ⟨15, 4096, 0, 8, vidc, 0, m04, 0, m07, vidy, m02467, m07, vidx, m02467⟩,
    ⟨15, 4096, 0, 8, vidc, 0, m04, 1, 15, na, na, m07, vidx, m02467⟩,
    ⟨15, 4096, 0, 8, vidc, 4, m04, 1, 15, na, na, 8, vidx, m02467⟩,
    ⟨15, 4096, 0, pc, vidc, 0, m04, 1, 15, na, na, m07, vidx, m02467⟩,
    ⟨15, 4096, 0, 14, vidc, 0, m04, 1, 15, na, na, m07, vidx, m02467⟩,
    ⟨15, 4096, 0, pc, 4096, 0, m04, 1, 15, na, na, m07, vidx, m02467⟩,
    ⟨15, 4096, 0, 8, vidc, 0, m04, 1, m07, vidy, na, m07, vidx, m02467⟩,
    ⟨15, 4096, 0, 8, vidc, 0, m04, 1, 15, na, na, 15, na, na⟩,
    ⟨15, 4096, 0, pc, vidc, 0, m04, 1, 15, na, na, 15, na, na⟩,
    ⟨15, 4096, 0, 8, 4096, 0, m04, 1, 15, na, na, 15, na, na⟩,
    ⟨15, 4096, 0, 8, 4096, 0, m04, 1, 15, na, na, m07, vidx, m02467⟩,
    -- double-tagged frames
    ⟨14, 4096, 0, 14, 4096, 0, 0, 0, 15, na, na, 15, na, na⟩,
    ⟨14, 4096, 0, 14, 4096, 0, m14, 0, 15, na, na, 15, na, na⟩,
    ⟨14, 4096, 0, 14, 4096, 0, 0, 3, 15, 4096, 0, 15, 4096, 0⟩,
    ⟨14, 4096, 0, 14, 4096, 0, m14, 3, 15, 4096, 0, 15, 4096, 0⟩,
    ⟨8, vids, 0, 8, vidc, 0, m04, 0, 15, na, na, m07, vidx, m07⟩,
    ⟨8, vids, 0, 8, vidc, 0, m04, 0, 15, na, na, 9, vidx, m07⟩,
    ⟨8, vids, 0, 8, vidc, 0, m04, 0, m07, vidy, m07, m07, vidx, m07⟩,
    ⟨8, vids, 0, 8, vidc, 0, m04, 0, 9, vidy, m07, 8, vidx, m07⟩,
    ⟨8, vids, 0, 8, vidc, 0, m04, 1, 15, na, na, m07, vidx, m07⟩,
    ⟨8, vids, 5, 14, 4096, 0, m04, 1, 15, na, na, 9, vidx, m07⟩,
    ⟨ps, vids, 5, 8, 4096, 0, m04, 1, 15, na, na, px, vidx, m07⟩,
    ⟨8, vids, 0, 8, vidc, 0, m04, 1, 15, na, na, 9, vidx, m07⟩,
    ⟨8, vids, 0, 8, 4096, 0, m04, 1, 15, na, na, 9, vidx, m07⟩,
    ⟨8, vids, 0, 8, vidc, 0, m04, 2, m07, vidy, m07, m07, vidx, m07⟩,
    ⟨8, vids, 0, 8, vidc, 0, m04, 2, 9, vidy, m07, 8, vidx, m07⟩,
    ⟨8, vids, 0, 8, vidc, 0, m04, 2, 8, 4096, m07, 9, 4097, m07⟩,
    ⟨8, vids, 0, 8, vidc, 0, m04, 1, 15, na, na, 15, na, na⟩,
    ⟨8, vids, 0, 8, vidc, 0, m04, 2, 15, na, na, 15, na, na⟩,
    ⟨8, 4096, 0, 8, 4096, 0, m04, 2, 15, na, na, 15, na, na⟩ ]

/-- `sce_rules`. -/
def sceRules : List SceRules :=
  [ -- untagged frames
    { up := ⟨1, 0, 0, ⟨0, 0, 0, 0⟩, ⟨0, 0, 0, 0⟩, 1, ⟨15, 0, 0, 15, 0, 0, 0, 1, 1⟩⟩
      down := ⟨1, 0, 0, ⟨0, 0, 0, 0⟩, ⟨0, 0, 0, 0⟩, 1, ⟨15, 0, 0, 15, 0, 0, 0, 1, 1⟩⟩ },
    { up := ⟨1, 0, 0, ⟨0, 0, 0, 0⟩, ⟨0, 0, 0, 0⟩, 0, ⟨15, 0, 0, 15, 0, 0, 0, 1, 1⟩⟩
      down := ⟨1, 0, 0, ⟨0, 0, 0, 0⟩, ⟨0, 0, 0, 0⟩, 0, ⟨15, 0, 0, 15, 0, 0, 0, 1, 1⟩⟩ },
    { up := ⟨1, 0, 0, ⟨0, 0, 0, 0⟩, ⟨0, 0, 0, 0⟩, 1, ⟨0, 0, 0, 0, 0, 0, 1, 1, 1⟩⟩
      down := ⟨0, 0, 0, ⟨0, 0, 0, 0⟩, ⟨0, 0, 0, 0⟩, 0, ⟨0, 0, 0, 0, 0, 0, 0, 0, 0⟩⟩ },
    { up := ⟨1, 0, 0, ⟨0, 0, 0, 0⟩, ⟨0, 0, 0, 0⟩, 0, ⟨0, 0, 0, 0, 0, 0, 1, 1, 1⟩⟩
      down := ⟨0, 0, 0, ⟨0, 0, 0, 0⟩, ⟨0, 0, 0, 0⟩, 0, ⟨0, 0, 0, 0, 0, 0, 0, 0, 0⟩⟩ },
    { up := ⟨1, 0, 0, ⟨0, 0, 0, 0⟩, ⟨0, 0, 0, 0⟩, 1, ⟨tip, tiv, tit, 15, 0, 0, 0, 1, 1⟩⟩
      down := ⟨0, 1, 0, ⟨0, 0, 0, 0⟩, ⟨0, 0, 0, 0⟩, 1, ⟨15, 0, 0, 15, 0, 0, 0, 1, 1⟩⟩ },
    { up := ⟨1, 0, 0, ⟨0, 0, 0, 0⟩, ⟨0, 0, 0, 0⟩, 1, ⟨tip, tiv, tit, 15, 0, 0, 0, 1, 1⟩⟩
      down := ⟨0, 1, 0, ⟨0, 0, 0, 0⟩, ⟨0, 0, 0, 0⟩, 1, ⟨15, 0, 0, 15, 0, 0, 0, 1, 1⟩⟩ },
    { up := ⟨1, 0, 0, ⟨0, 0, 0, 0⟩, ⟨0, 0, 0, 0⟩, 0, ⟨tip, tiv, tit, 15, 0, 0, 0, 1, 1⟩⟩
      down := ⟨0, 1, 0, ⟨0, 0, 0, 0⟩, ⟨0, 0, 0, 0⟩, 0, ⟨15, 0, 0, 15, 0, 0, 0, 1, 1⟩⟩ },
    { up := ⟨1, 0, 0, ⟨0, 0, 0, 0⟩, ⟨0, 0, 0, 0⟩, 1, ⟨top, tov, tot, tip, tiv, tit, 0, 1, 1⟩⟩
      down := ⟨0, 0, 1, ⟨0, 0, 0, 0⟩, ⟨0, 0, 0, 0⟩, 1, ⟨15, 0, 0, 15, 0, 0, 0, 1, 1⟩⟩ },
    { up := ⟨1, 0, 0, ⟨0, 0, 0, 0⟩, ⟨0, 0, 0, 0⟩, 0, ⟨top, tov, tot, tip, tiv, tit, 0, 1, 1⟩⟩
      down := ⟨0, 0, 1, ⟨0, 0, 0, 0⟩, ⟨0, 0, 0, 0⟩, 0, ⟨15, 0, 0, 15, 0, 0, 0, 1, 1⟩⟩ },
    -- single-tagged frames
    { up := ⟨0, 1, 0, ⟨0, 0, 0, 0⟩, ⟨0, 0, 0, 0⟩, 1, ⟨15, 0, 0, 15, 0, 0, 0, 0, 1⟩⟩
      down := ⟨0, 1, 0, ⟨0, 0, 0, 0⟩, ⟨0, 0, 0, 0⟩, 1, ⟨15, 0, 0, 15, 0, 0, 0, 0, 1⟩⟩ },
    { up := ⟨0, 1, 0, ⟨0, 0, 0, 0⟩, ⟨0, 0, 0, 0⟩, 0, ⟨15, 0, 0, 15, 0, 0, 0, 0, 1⟩⟩
      down := ⟨0, 1, 0, ⟨0, 0, 0, 0⟩, ⟨0, 0, 0, 0⟩, 0, ⟨15, 0, 0, 15, 0, 0, 0, 0, 1⟩⟩ },
    { up := ⟨0, 1, 0, ⟨0, 0, 0, 0⟩, ⟨0, 0, 0, 0⟩, 1, ⟨15, 0, 0, 15, 0, 0, 1, 0, 0⟩⟩
      down := ⟨0, 0, 0, ⟨0, 0, 0, 0⟩, ⟨0, 0, 0, 0⟩, 0, ⟨0, 0, 0, 0, 0, 0, 0, 0, 0⟩⟩ },
    { up := ⟨0, 1, 0, ⟨0, 0, 0, 0⟩, ⟨0, 0, 0, 0⟩, 0, ⟨15, 0, 0, 15, 0, 0, 1, 0, 0⟩⟩
      down := ⟨0, 0, 0, ⟨0, 0, 0, 0⟩, ⟨0, 0, 0, 0⟩, 0, ⟨0, 0, 0, 0, 0, 0, 0, 0, 0⟩⟩ },
    { up := ⟨0, 1, 0, ⟨0, 0, 0, 0⟩, ⟨0, 0, 0, 0⟩, 1, ⟨tip, tiv, tit, 15, 0, 0, 0, 0, 1⟩⟩
      down := ⟨0, 0, 1, ⟨1, tip, 1, tiv⟩, ⟨0, 0, 0, 0⟩, 0, ⟨15, 0, 0, 15, 0, 0, 0, 1, 0⟩⟩ },
    { up := ⟨0, 0, 0, ⟨0, 0, 0, 0⟩, ⟨0, 0, 0, 0⟩, 0, ⟨15, 0, 0, 15, 0, 0, 1, 0, 0⟩⟩
      down := ⟨0, 0, 0, ⟨0, 0, 0, 0⟩, ⟨0, 0, 0, 0⟩, 0, ⟨0, 0, 0, 0, 0, 0, 0, 0, 0⟩⟩ },
    { up := ⟨0, 1, 0, ⟨0, 0, 0, 0⟩, ⟨0, 0, 0, 0⟩, 0, ⟨15, 0, 0, 15, 0, 0, 1, 0, 0⟩⟩
      down := ⟨0, 0, 0, ⟨0, 0, 0, 0⟩, ⟨0, 0, 0, 0⟩, 0, ⟨0, 0, 0, 0, 0, 0, 0, 0, 0⟩⟩ },
    { up := ⟨0, 0, 0, ⟨0, 0, 0, 0⟩, ⟨0, 0, 0, 0⟩, 0, ⟨15, 0, 0, 15, 0, 0, 1, 0, 0⟩⟩
      down := ⟨0, 0, 0, ⟨0, 0, 0, 0⟩, ⟨0, 0, 0, 0⟩, 0, ⟨0, 0, 0, 0, 0, 0, 0, 0, 0⟩⟩ },
    { up := ⟨0, 1, 0, ⟨0, 0, 1, fiv⟩, ⟨0, 0, 0, 0⟩, 0, ⟨tip, tiv, tit, 15, 0, 0, 0, 0, 1⟩⟩
      down := ⟨0, 0, 1, ⟨1, tip, 1, tiv⟩, ⟨0, 0, 1, fiv⟩, 0, ⟨15, 0, 0, 15, 0, 0, 0, 1, 0⟩⟩ },
    { up := ⟨0, 1, 0, ⟨0, 0, 1, fiv⟩, ⟨0, 0, 0, 0⟩, 0, ⟨9, tiv, tit, 15, 0, 0, 0, 0, 1⟩⟩
      down := ⟨0, 0, 1, ⟨0, 0, 1, tiv⟩, ⟨0, 0, 0, 0⟩, 0, ⟨15, 0, 0, 15, 0, 0, 0, 1, 0⟩⟩ },
    { up := ⟨0, 1, 0, ⟨0, 0, 1, fiv⟩, ⟨0, 0, 0, 0⟩, 0, ⟨10, tiv, tit, 15, 0, 0, 0, 0, 1⟩⟩
      down := ⟨0, 0, 1, ⟨0, 0, 0, 0⟩, ⟨0, 0, 1, tiv⟩, 0, ⟨15, 0, 0, 15, 0, 0, 0, 1, 0⟩⟩ },
    { up := ⟨0, 1, 0, ⟨0, 0, 1, fiv⟩, ⟨0, 0, 0, 0⟩, 0, ⟨10, tiv, tit, 15, 0, 0, 0, 1, 1⟩⟩
      down := ⟨0, 1, 0, ⟨0, 0, 1, tiv⟩, ⟨0, 0, 0, 0⟩, 0, ⟨9, fiv, 0, 15, 0, 0, 0, 1, 1⟩⟩ },
    { up := ⟨0, 1, 0, ⟨0, 0, 0, 0⟩, ⟨0, 0, 0, 0⟩, 0, ⟨top, tov, tot, tip, tiv, tit, 0, 0, 1⟩⟩
      down := ⟨0, 0, 1, ⟨0, 0, 1, tov⟩, ⟨0, 0, 1, tiv⟩, 0, ⟨15, 0, 0, 15, 0, 0, 0, 1, 1⟩⟩ },
    { up := ⟨0, 1, 0, ⟨0, 0, 1, fiv⟩, ⟨0, 0, 0, 0⟩, 0, ⟨top, tov, tot, tip, tiv, tit, 0, 0, 1⟩⟩
      down := ⟨0, 0, 1, ⟨0, 0, 1, tov⟩, ⟨0, 0, 1, tiv⟩, 0, ⟨15, 0, 0, 15, 0, 0, 0, 1, 1⟩⟩ },
    { up := ⟨0, 1, 0, ⟨0, 0, 1, fiv⟩, ⟨0, 0, 0, 0⟩, 0, ⟨tip, tiv, tit, 15, 0, 0, 0, 1, 1⟩⟩
      down := ⟨0, 1, 0, ⟨1, tip, 1, tiv⟩, ⟨0, 0, 0, 0⟩, 0, ⟨fip, fiv, 6, 15, 0, 0, 0, 1, 1⟩⟩ },
    { up := ⟨0, 1, 0, ⟨0, 0, 1, fiv⟩, ⟨0, 0, 0, 0⟩, 0, ⟨9, tiv, tit, 15, 0, 0, 0, 1, 1⟩⟩
      down := ⟨0, 1, 0, ⟨0, 0, 1, tiv⟩, ⟨0, 0, 0, 0⟩, 0, ⟨9, fiv, 6, 15, 0, 0, 0, 1, 1⟩⟩ },
    { up := ⟨0, 1, 0, ⟨1, fip, 1, fiv⟩, ⟨0, 0, 0, 0⟩, 0, ⟨tip, tiv, tit, 15, 0, 0, 0, 1, 1⟩⟩
      down := ⟨0, 1, 0, ⟨0, 0, 1, tiv⟩, ⟨0, 0, 0, 0⟩, 0, ⟨9, fiv, 6, 15, 0, 0, 0, 1, 1⟩⟩ },
    { up := ⟨0, 1, 0, ⟨0, 0, 1, fiv⟩, ⟨0, 0, 0, 0⟩, 1, ⟨tip, tiv, tit, 15, 0, 0, 0, 1, 1⟩⟩
      down := ⟨0, 1, 0, ⟨0, 0, 1, tiv⟩, ⟨0, 0, 0, 0⟩, 0, ⟨9, fiv, 6, 15, 0, 0, 0, 1, 1⟩⟩ },
    { up := ⟨0, 1, 0, ⟨1, fip, 0, 0⟩, ⟨0, 0, 0, 0⟩, 0, ⟨tip, tiv, tit, 15, 0, 0, 0, 1, 1⟩⟩
      down := ⟨0, 1, 0, ⟨0, 0, 1, tiv⟩, ⟨0, 0, 0, 0⟩, 0, ⟨9, 0, 6, 15, 0, 0, 0, 1, 1⟩⟩ },
    { up := ⟨0, 1, 0, ⟨0, 0, 1, fiv⟩, ⟨0, 0, 0, 0⟩, 0, ⟨top, tov, tot, tip, tiv, tit, 0, 1, 1⟩⟩
      down := ⟨0, 0, 1, ⟨0, 0, 1, tov⟩, ⟨0, 0, 1, tiv⟩, 0, ⟨9, fiv, 6, 15, 0, 0, 0, 1, 1⟩⟩ },
    { up := ⟨0, 1, 0, ⟨0, 0, 1, fiv⟩, ⟨0, 0, 0, 0⟩, 0, ⟨15, 0, 0, 15, 0, 0, 0, 1, 1⟩⟩
      down := ⟨1, 0, 0, ⟨0, 0, 0, 0⟩, ⟨0, 0, 0, 0⟩, 0, ⟨0, fiv, 6, 15, 0, 0, 0, 1, 1⟩⟩ },
    { up := ⟨0, 1, 0, ⟨1, fip, 1, fiv⟩, ⟨0, 0, 0, 0⟩, 0, ⟨15, 0, 0, 15, 0, 0, 0, 1, 1⟩⟩
      down := ⟨1, 0, 0, ⟨0, 0, 0, 0⟩, ⟨0, 0, 0, 0⟩, 0, ⟨fip, fiv, 6, 15, 0, 0, 0, 1, 1⟩⟩ },
    { up := ⟨0, 1, 0, ⟨0, 0, 0, 0⟩, ⟨0, 0, 0, 0⟩, 1, ⟨15, 0, 0, 15, 0, 0, 0, 1, 1⟩⟩
      down := ⟨1, 0, 0, ⟨0, 0, 0, 0⟩, ⟨0, 0, 0, 0⟩, 0, ⟨0, 0, 6, 15, 0, 0, 0, 1, 1⟩⟩ },
    { up := ⟨0, 1, 0, ⟨0, 0, 0, 0⟩, ⟨0, 0, 0, 0⟩, 0, ⟨tip, tiv, tit, 15, 0, 0, 0, 1, 1⟩⟩
      down := ⟨0, 1, 0, ⟨1, tip, 1, tiv⟩, ⟨0, 0, 0, 0⟩, 0, ⟨0, 0, 6, 15, 0, 0, 0, 1, 1⟩⟩ },
    -- double-tagged frames
    { up := ⟨0, 0, 1, ⟨0, 0, 0, 0⟩, ⟨0, 0, 0, 0⟩, 1, ⟨15, 0, 0, 15, 0, 0, 0, 0, 0⟩⟩
      down := ⟨0, 0, 1, ⟨0, 0, 0, 0⟩, ⟨0, 0, 0, 0⟩, 1, ⟨15, 0, 0, 15, 0, 0, 0, 0, 0⟩⟩ },
    { up := ⟨0, 0, 1, ⟨0, 0, 0, 0⟩, ⟨0, 0, 0, 0⟩, 0, ⟨15, 0, 0, 15, 0, 0, 0, 0, 0⟩⟩
      down := ⟨0, 0, 1, ⟨0, 0, 0, 0⟩, ⟨0, 0, 0, 0⟩, 0, ⟨15, 0, 0, 15, 0, 0, 0, 0, 0⟩⟩ },
    { up := ⟨0, 0, 1, ⟨0, 0, 0, 0⟩, ⟨0, 0, 0, 0⟩, 1, ⟨15, 0, 0, 15, 0, 0, 0, 1, 1⟩⟩
      down := ⟨0, 0, 0, ⟨0, 0, 0, 0⟩, ⟨0, 0, 0, 0⟩, 0, ⟨0, 0, 0, 0, 0, 0, 0, 0, 0⟩⟩ },
    { up := ⟨0, 0, 1, ⟨0, 0, 0, 0⟩, ⟨0, 0, 0, 0⟩, 0, ⟨15, 0, 0, 15, 0, 0, 0, 1, 1⟩⟩
      down := ⟨0, 0, 0, ⟨0, 0, 0, 0⟩, ⟨0, 0, 0, 0⟩, 0, ⟨0, 0, 0, 0, 0, 0, 0, 0, 0⟩⟩ },
    { up := ⟨0, 0, 1, ⟨0, 0, 1, fov⟩, ⟨0, 0, 1, fiv⟩, 0, ⟨tip, tiv, tit, 15, 0, 0, 0, 0, 0⟩⟩
      down := ⟨0, 1, 0, ⟨1, tip, 1, tiv⟩, ⟨0, 0, 1, fov⟩, 0, ⟨15, 0, 0, 15, 0, 0, 0, 1, 0⟩⟩ },
    { up := ⟨0, 0, 1, ⟨0, 0, 1, fov⟩, ⟨0, 0, 1, fiv⟩, 0, ⟨tip, tiv, tit, 15, 0, 0, 0, 0, 0⟩⟩
      down := ⟨0, 1, 0, ⟨0, 0, 1, tiv⟩, ⟨0, 0, 1, fov⟩, 0, ⟨15, 0, 0, 15, 0, 0, 0, 1, 0⟩⟩ },
    { up := ⟨0, 0, 1, ⟨0, 0, 1, fov⟩, ⟨0, 0, 1, fiv⟩, 0, ⟨top, tov, tot, tip, tiv, tit, 0, 0, 0⟩⟩
      down := ⟨0, 0, 1, ⟨1, top, 1, tov⟩, ⟨1, tip, 1, tiv⟩, 0, ⟨15, 0, 0, 15, 0, 0, 0, 1, 1⟩⟩ },
    { up := ⟨0, 0, 1, ⟨0, 0, 1, fov⟩, ⟨0, 0, 1, fiv⟩, 0, ⟨top, tov, tot, tip, tiv, tit, 0, 0, 0⟩⟩
      down := ⟨0, 0, 1, ⟨1, top, 1, tov⟩, ⟨1, tip, 1, tiv⟩, 0, ⟨15, 0, 0, 15, 0, 0, 0, 1, 1⟩⟩ },
    { up := ⟨0, 0, 1, ⟨0, 0, 1, fov⟩, ⟨0, 0, 1, fiv⟩, 0, ⟨top, tov, tot, 15, 0, 0, 0, 1, 0⟩⟩
      down := ⟨0, 0, 1, ⟨1, top, 1, tov⟩, ⟨1, fip, 1, fiv⟩, 0, ⟨9, fov, 6, 15, 0, 0, 0, 1, 0⟩⟩ },
    { up := ⟨0, 0, 1, ⟨0, 0, 1, fov⟩, ⟨0, 0, 0, 0⟩, 0, ⟨tip, tov, tot, 15, 0, 0, 0, 1, 0⟩⟩
      down := ⟨0, 0, 1, ⟨1, top, 1, tov⟩, ⟨1, fip, 1, fiv⟩, 0, ⟨9, fov, 6, 15, 0, 0, 0, 1, 0⟩⟩ },
    { up := ⟨0, 0, 1, ⟨1, fop, 1, fov⟩, ⟨0, 0, 0, 0⟩, 0, ⟨tip, tiv, tit, 15, 0, 0, 0, 1, 0⟩⟩
      down := ⟨0, 0, 1, ⟨1, tip, 1, tiv⟩, ⟨1, fip, 1, fiv⟩, 0, ⟨fop, fov, 6, 15, 0, 0, 0, 1, 0⟩⟩ },
    { up := ⟨0, 0, 1, ⟨0, 0, 1, fov⟩, ⟨0, 0, 1, fiv⟩, 0, ⟨tip, tiv, tit, 15, 0, 0, 0, 1, 0⟩⟩
      down := ⟨0, 0, 1, ⟨1, top, 1, tov⟩, ⟨0, 0, 1, fiv⟩, 0, ⟨9, fov, 6, 15, 0, 0, 0, 1, 0⟩⟩ },
    { up := ⟨0, 0, 1, ⟨0, 0, 1, fov⟩, ⟨0, 0, 0, 0⟩, 0, ⟨tip, tiv, tit, 15, 0, 0, 0, 1, 0⟩⟩
      down := ⟨0, 0, 1, ⟨0, 0, 1, tiv⟩, ⟨0, 0, 0, 0⟩, 0, ⟨9, fov, 6, 15, 0, 0, 0, 1, 0⟩⟩ },
    { up := ⟨0, 0, 1, ⟨0, 0, 1, fov⟩, ⟨0, 0, 1, fiv⟩, 0, ⟨top, tov, tot, tip, tiv, tit, 0, 1, 1⟩⟩
      down := ⟨0, 0, 1, ⟨1, top, 1, tov⟩, ⟨1, tip, 1, tiv⟩, 0, ⟨8, fov, 6, 9, fiv, 6, 0, 1, 1⟩⟩ },
    { up := ⟨0, 0, 1, ⟨0, 0, 1, fov⟩, ⟨0, 0, 1, fiv⟩, 0, ⟨top, tov, tot, tip, tiv, tit, 0, 1, 1⟩⟩
      down := ⟨0, 0, 1, ⟨1, top, 1, tov⟩, ⟨1, tip, 1, tiv⟩, 0, ⟨9, fov, 6, 8, fiv, 6, 0, 1, 1⟩⟩ },
    { up := ⟨0, 0, 1, ⟨0, 0, 1, fov⟩, ⟨0, 0, 1, fiv⟩, 0, ⟨8, fiv, tot, 9, fov, tit, 0, 1, 1⟩⟩
      down := ⟨0, 0, 1, ⟨0, 0, 1, fiv⟩, ⟨0, 0, 1, fov⟩, 0, ⟨8, fov, 6, 9, fiv, 6, 0, 1, 1⟩⟩ },
    { up := ⟨0, 0, 1, ⟨0, 0, 1, fov⟩, ⟨0, 0, 1, fiv⟩, 0, ⟨15, 0, 0, 15, 0, 0, 0, 1, 0⟩⟩
      down := ⟨0, 1, 0, ⟨0, 0, 1, fiv⟩, ⟨0, 0, 0, 0⟩, 0, ⟨15, 0, 6, 15, 0, 0, 0, 0, 1⟩⟩ },
    { up := ⟨0, 0, 1, ⟨0, 0, 1, fov⟩, ⟨0, 0, 1, fiv⟩, 0, ⟨15, 0, 0, 15, 0, 0, 0, 1, 1⟩⟩
      down := ⟨1, 0, 0, ⟨0, 0, 0, 0⟩, ⟨0, 0, 0, 0⟩, 1, ⟨0, DEF, 6, 15, DEF, 6, 0, 1, 1⟩⟩ },
    { up := ⟨0, 0, 1, ⟨0, 0, 0, 0⟩, ⟨0, 0, 0, 0⟩, 0, ⟨15, 0, 0, 15, 0, 0, 0, 1, 1⟩⟩
      down := ⟨1, 0, 0, ⟨0, 0, 0, 0⟩, ⟨0, 0, 0, 0⟩, 1, ⟨0, DEF, 6, 15, DEF, 6, 0, 1, 1⟩⟩ } ]

def priorityMatches (any : Bool) (row f : Int) : Prop :=
  if any then f ≤ 7 else row = f

instance (any : Bool) (row f : Int) : Decidable (priorityMatches any row f) :=
  inferInstanceAs (Decidable (if any then f ≤ 7 else row = f))

/-- The comparisons of `omci_api_find_ext_vlan_rule` with one row. -/
structure VlanFilter.Matches (row f : VlanFilter) : Prop where
  tagsToRemove : row.treatmentTagsToRemove = f.treatmentTagsToRemove
  ethertype :
    if row.filterEthertype = m04 then 0 ≤ f.filterEthertype ∧ f.filterEthertype ≤ 4
    else if row.filterEthertype = m14 then 1 ≤ f.filterEthertype ∧ f.filterEthertype ≤ 4
    else row.filterEthertype = f.filterEthertype
  outerPriority :
    priorityMatches (row.filterOuterPriority = ps ∨ row.filterOuterPriority = m07)
      row.filterOuterPriority f.filterOuterPriority
  innerPriority :
    priorityMatches (row.filterInnerPriority = pc) row.filterInnerPriority f.filterInnerPriority
  outerVid : row.filterOuterPriority < 13 →
    if row.filterOuterVid = vids then f.filterOuterVid ≤ 4095
    else row.filterOuterVid = f.filterOuterVid
  innerVid : row.filterInnerPriority < 13 →
    if row.filterInnerVid = vidc then f.filterInnerVid ≤ 4095
    else row.filterInnerVid = f.filterInnerVid
  treatmentOuterPriority :
    priorityMatches (row.treatmentOuterPriority = m07) row.treatmentOuterPriority
      f.treatmentOuterPriority
  treatmentInnerPriority :
    -- 8 and 9 are taken for each other
    (row.treatmentInnerPriority = 8 ∧ f.treatmentInnerPriority = 9) ∨
    (row.treatmentInnerPriority = 9 ∧ f.treatmentInnerPriority = 8) ∨
    priorityMatches (row.treatmentInnerPriority = px ∨ row.treatmentInnerPriority = m07)
      row.treatmentInnerPriority f.treatmentInnerPriority
  treatmentOuterVid : f.treatmentOuterPriority ≠ 15 → f.treatmentOuterVid ≤ 4095
  treatmentInnerVid : f.treatmentInnerPriority ≠ 15 → f.treatmentInnerVid ≤ 4095

instance (row f : VlanFilter) : Decidable (row.Matches f) :=
  decidable_of_iff
    (row.treatmentTagsToRemove = f.treatmentTagsToRemove ∧
      (if row.filterEthertype = m04 then 0 ≤ f.filterEthertype ∧ f.filterEthertype ≤ 4
        else if row.filterEthertype = m14 then 1 ≤ f.filterEthertype ∧ f.filterEthertype ≤ 4
        else row.filterEthertype = f.filterEthertype) ∧
      priorityMatches (row.filterOuterPriority = ps ∨ row.filterOuterPriority = m07)
        row.filterOuterPriority f.filterOuterPriority ∧
      priorityMatches (row.filterInnerPriority = pc) row.filterInnerPriority
        f.filterInnerPriority ∧
      (row.filterOuterPriority < 13 →
        if row.filterOuterVid = vids then f.filterOuterVid ≤ 4095
        else row.filterOuterVid = f.filterOuterVid) ∧
      (row.filterInnerPriority < 13 →
        if row.filterInnerVid = vidc then f.filterInnerVid ≤ 4095
        else row.filterInnerVid = f.filterInnerVid) ∧
      priorityMatches (row.treatmentOuterPriority = m07) row.treatmentOuterPriority
        f.treatmentOuterPriority ∧
      ((row.treatmentInnerPriority = 8 ∧ f.treatmentInnerPriority = 9) ∨
        (row.treatmentInnerPriority = 9 ∧ f.treatmentInnerPriority = 8) ∨
        priorityMatches (row.treatmentInnerPriority = px ∨ row.treatmentInnerPriority = m07)
          row.treatmentInnerPriority f.treatmentInnerPriority) ∧
      (f.treatmentOuterPriority ≠ 15 → f.treatmentOuterVid ≤ 4095) ∧
      (f.treatmentInnerPriority ≠ 15 → f.treatmentInnerVid ≤ 4095))
    ⟨fun ⟨h₁, h₂, h₃, h₄, h₅, h₆, h₇, h₈, h₉, h₁₀⟩ => ⟨h₁, h₂, h₃, h₄, h₅, h₆, h₇, h₈, h₉, h₁₀⟩,
      fun ⟨h₁, h₂, h₃, h₄, h₅, h₆, h₇, h₈, h₉, h₁₀⟩ => ⟨h₁, h₂, h₃, h₄, h₅, h₆, h₇, h₈, h₉, h₁₀⟩⟩

/-- The loop of `omci_api_find_ext_vlan_rule` from row `i` on: it counts the matches in `m` and
keeps the last one in `bestMatch`. -/
def findLoop (f : VlanFilter) : List VlanFilter → Nat → Nat → Nat → Nat × Nat
  | [], _, m, bestMatch => (m, bestMatch)
  | row :: rows, i, m, bestMatch =>
      if row.Matches f then findLoop f rows (i + 1) (m + 1) i
      else findLoop f rows (i + 1) m bestMatch

/-- `omci_api_find_ext_vlan_rule`: the row that matches the rule; none if no row matches (`-1`)
or several do (`-2`). -/
def findExtVlanRule (f : VlanFilter) : Option Nat :=
  let found := findLoop f omciRules 0 0 0
  if found.1 = 0 then none
  else if 1 < found.1 then none
  else some found.2

/-- `map_sce_val`. -/
def mapSceVal (f : VlanFilter) (val : Int) : Int :=
  if val = tip then f.treatmentInnerPriority
  else if val = tiv then f.treatmentInnerVid
  else if val = tit then f.treatmentInnerTpidDe
  else if val = top then f.treatmentOuterPriority
  else if val = tov then f.treatmentOuterVid
  else if val = tot then f.treatmentOuterTpidDe
  else if val = fip then f.filterInnerPriority
  else if val = fiv then f.filterInnerVid
  else if val = fop then f.filterOuterPriority
  else if val = fov then f.filterOuterVid
  else val

/-- `struct gpe_vlan_rule_table`, as far as it is set. -/
structure GpeVlanRuleTable where
  outerDeFilter : Bool
  outerDeEnable : Bool
  outerInputTpidEnable : Bool
  outerVidFilter : BitVec 12
  outerVidEnable : Bool
  outerPriorityFilter : BitVec 3
  outerPriorityEnable : Bool
  twoEnable : Bool
  oneEnable : Bool
  zeroEnable : Bool
  valid : Bool
  def' : Bool
  /-- `ethertype_filter1_enable` to `ethertype_filter5_enable`; 0 if none of them is set. -/
  ethertypeFilterEnable : Nat
  innerDeFilter : Bool
  innerDeEnable : Bool
  innerInputTpidEnable : Bool
  innerVidFilter : BitVec 12
  innerVidEnable : Bool
  innerPriorityFilter : BitVec 3
  innerPriorityEnable : Bool
deriving DecidableEq

/-- `struct gpe_vlan_treatment_table`. -/
structure GpeVlanTreatmentTable where
  tagbTpidTreatment : BitVec 3
  tagbVidTreatment : BitVec 13
  tagbTreatment : BitVec 4
  valid : Bool
  innerNotGenerate : Bool
  outerNotGenerate : Bool
  discardEnable : Bool
  tagaTpidTreatment : BitVec 3
  tagaVidTreatment : BitVec 13
  tagaTreatment : BitVec 4
deriving DecidableEq

def bit (val : Int) : Bool :=
  val % 2 = 1

/-- The rule and the treatment that `action` makes of `f`. The downstream direction leaves out
`inner_input_tpid_enable` for two tags (`innerInputTpid`). An action that applies to no frame
leaves both tables void. -/
def ruleTables (innerInputTpid : Bool) (action : SceAction) (f : VlanFilter) :
    GpeVlanRuleTable × GpeVlanTreatmentTable :=
  let zero := bit action.zeroEnable
  let one := bit action.oneEnable
  let two := bit action.twoEnable
  let valid := zero || one || two
  let enabled (enable : Int) : Bool := valid && bit enable
  let val (val : Int) : Int := if valid then mapSceVal f val else 0
  -- what `switch (tpid_de)` sets: a case falls through to the next one
  let deFilter (tpidDe : Int) : Bool := tpidDe = 7
  let deEnable (tpidDe : Int) : Bool := tpidDe = 7 ∨ tpidDe = 6
  let inputTpid (tpidDe : Int) : Bool := 4 ≤ tpidDe ∧ tpidDe ≤ 7
  ({ outerDeFilter := (one && deFilter f.filterInnerTpidDe) || (two && deFilter f.filterOuterTpidDe)
     outerDeEnable := (one && deEnable f.filterInnerTpidDe) || (two && deEnable f.filterOuterTpidDe)
     outerInputTpidEnable :=
       (one && inputTpid f.filterInnerTpidDe) || (two && inputTpid f.filterOuterTpidDe)
     outerVidFilter := BitVec.ofInt 12 (val action.outer.vidFilter)
     outerVidEnable := enabled action.outer.vidEnable
     outerPriorityFilter := BitVec.ofInt 3 (val action.outer.priorityFilter)
     outerPriorityEnable := enabled action.outer.priorityEnable
     twoEnable := two
     oneEnable := one
     zeroEnable := zero
     valid
     def' := bit action.def' && !(valid && decide (f.filterEthertype ≠ 0))
     ethertypeFilterEnable := if valid then f.filterEthertype.toNat else 0
     innerDeFilter := two && deFilter f.filterInnerTpidDe
     innerDeEnable := two && deEnable f.filterInnerTpidDe
     innerInputTpidEnable := innerInputTpid && two && inputTpid f.filterInnerTpidDe
     innerVidFilter := BitVec.ofInt 12 (val action.inner.vidFilter)
     innerVidEnable := enabled action.inner.vidEnable
     innerPriorityFilter := BitVec.ofInt 3 (val action.inner.priorityFilter)
     innerPriorityEnable := enabled action.inner.priorityEnable },
   { tagbTpidTreatment := BitVec.ofInt 3 (val action.treatment.tagbTpid)
     tagbVidTreatment := BitVec.ofInt 13 (val action.treatment.tagbVid)
     tagbTreatment := BitVec.ofInt 4 (val action.treatment.tagb)
     valid
     innerNotGenerate := enabled action.treatment.innerNotGenerate
     outerNotGenerate := enabled action.treatment.outerNotGenerate
     discardEnable := enabled action.treatment.discardEnable
     tagaTpidTreatment := BitVec.ofInt 3 (val action.treatment.tagaTpid)
     tagaVidTreatment := BitVec.ofInt 13 (val action.treatment.tagaVid)
     tagaTreatment := BitVec.ofInt 4 (val action.treatment.taga) })

/-- `struct gpe_ext_vlan_custom`: the ethertypes `ety1` to `ety5`. -/
abbrev ExtVlanCustom := List (BitVec 16)

/-- The `ethertype_val` of an ethertype filter. -/
def ethertypeVal : Int → Option (BitVec 16)
  | 1 => some 0x0800
  | 2 => some 0x8863
  | 3 => some 0x0806
  | 4 => some 0x86DD
  | _ => none

/-- `ext_vlan_custom_update`: makes sure that the ethertype of a filter is one of the five;
`dev` says which of the two driver calls it may make succeed. -/
def extVlanCustomUpdate (custom : ExtVlanCustom) (dev : Bool × Bool) (ethertype : Int) :
    OmciApiReturn × ExtVlanCustom :=
  if ethertype = 0 then (.success, custom)
  else
    match ethertypeVal ethertype with
    | none => (.error, custom)
    | some val =>
        if !dev.1 then (.error, custom)
        else if val ∈ custom then (.success, custom)
        else if 0 ∈ custom then
          if dev.2 then (.success, custom.set (custom.idxOf 0) val) else (.error, custom)
        else (.error, custom)

/-- What mapping a rule leaves behind. -/
structure RuleMapped where
  ret : OmciApiReturn
  custom : ExtVlanCustom
  rule : GpeVlanRuleTable
  treatment : GpeVlanTreatmentTable

/-- Fill in the tables, and update the ethertypes if the rule filters on one. -/
def ruleMap (innerInputTpid : Bool) (action : SceAction) (custom : ExtVlanCustom)
    (dev : Bool × Bool) (f : VlanFilter) : RuleMapped :=
  let tables := ruleTables innerInputTpid action f
  let updated :=
    if tables.1.valid ∧ f.filterEthertype ≠ 0 then
      extVlanCustomUpdate custom dev f.filterEthertype
    else (.success, custom)
  ⟨updated.1, updated.2,
    if updated.1 = .success then tables.1 else { tables.1 with ethertypeFilterEnable := 0 },
    tables.2⟩

/-- The rows of `sce_rules`; outside the table nothing is enabled. -/
def sceRow (omciIdx : Nat) : SceRules :=
  let void : SceAction := ⟨0, 0, 0, ⟨0, 0, 0, 0⟩, ⟨0, 0, 0, 0⟩, 0, ⟨0, 0, 0, 0, 0, 0, 0, 0, 0⟩⟩
  sceRules.getD omciIdx ⟨void, void⟩

/-- `omci_api_rule_us_map`. -/
def ruleUsMap (omciIdx : Nat) : ExtVlanCustom → Bool × Bool → VlanFilter → RuleMapped :=
  ruleMap true (sceRow omciIdx).up

/-- `omci_api_rule_ds_map`. -/
def ruleDsMap (omciIdx : Nat) : ExtVlanCustom → Bool × Bool → VlanFilter → RuleMapped :=
  ruleMap false (sceRow omciIdx).down

end FalconGpon.Vlan
