/-
# VLAN tagging filters

A VLAN tagging filter data ME says with a forward operation what becomes of tagged and of
untagged frames. `omci_api_vlan_tagging_filter_data_update` makes of it an entry of the
tagging filter table with a list of TCIs, and points the bridge port of the ME to it. An
untagged frame that is to pass is let through by the default VID, which goes into the same list
as the TCIs that tagged frames are compared with.

`update_filters_iff` says for which operations, lists and default VIDs the filter passes the
frames that the operation passes.
-/

import FalconGpon.Api.MapperBijection
import FalconGpon.Lib.Program

namespace FalconGpon.Vlan

open FalconGpon.Lib
open FalconGpon.Api (Mappers MapperIdType OmciApiReturn)

/-! ## Forward operations -/

/-- What an operation investigates. -/
inductive TciField
  | vid
  | priority
  | tci
deriving DecidableEq

/-- Two TCIs agree in what is investigated; the DEI bit never is. -/
def TciField.Agrees : TciField → BitVec 16 → BitVec 16 → Prop
  | .vid, a, b => a.extractLsb' 0 12 = b.extractLsb' 0 12
  | .priority, a, b => a.extractLsb' 13 3 = b.extractLsb' 13 3
  | .tci, a, b => a.extractLsb' 0 12 = b.extractLsb' 0 12 ∧ a.extractLsb' 13 3 = b.extractLsb' 13 3

/-- What becomes of tagged frames. -/
inductive TaggedAction
  | bridge
  | discard
  /-- Pass what agrees with an entry of the list. -/
  | positive (field : TciField)
  /-- Discard what agrees with an entry of the list. -/
  | negative (field : TciField)
deriving DecidableEq

/-- A forward operation: for tagged frames, whether untagged ones are bridged, and whether it
holds downstream as well. -/
structure ForwardOperation where
  tagged : TaggedAction
  untaggedBridge : Bool
  bidirectional : Bool
deriving DecidableEq

/-- The forward operations of the standard, from 0x00 on. -/
def forwardOperations : List ForwardOperation :=
  [ ⟨.bridge, true, false⟩, ⟨.discard, true, false⟩, ⟨.bridge, false, false⟩,
    -- 0x03: positive in both directions, negative upstream
    ⟨.positive .vid, true, true⟩, ⟨.positive .vid, false, true⟩,
    ⟨.negative .vid, true, false⟩, ⟨.negative .vid, false, false⟩,
    ⟨.positive .priority, true, true⟩, ⟨.positive .priority, false, true⟩,
    ⟨.negative .priority, true, false⟩, ⟨.negative .priority, false, false⟩,
    ⟨.positive .tci, true, true⟩, ⟨.positive .tci, false, true⟩,
    ⟨.negative .tci, true, false⟩, ⟨.negative .tci, false, false⟩,
    -- 0x0f: positive in both directions
    ⟨.positive .vid, true, true⟩, ⟨.positive .vid, false, true⟩,
    ⟨.positive .priority, true, true⟩, ⟨.positive .priority, false, true⟩,
    ⟨.positive .tci, true, true⟩, ⟨.positive .tci, false, true⟩,
    -- 0x15: upstream only
    ⟨.bridge, false, false⟩,
    ⟨.positive .vid, true, false⟩, ⟨.positive .vid, false, false⟩,
    ⟨.positive .priority, true, false⟩, ⟨.positive .priority, false, false⟩,
    ⟨.positive .tci, true, false⟩, ⟨.positive .tci, false, false⟩,
    -- 0x1c: positive in both directions
    ⟨.positive .vid, true, true⟩, ⟨.positive .vid, false, true⟩,
    ⟨.positive .priority, true, true⟩, ⟨.positive .priority, false, true⟩,
    ⟨.positive .tci, true, true⟩, ⟨.positive .tci, false, true⟩ ]

def forwardOperation (fwrdOp : BitVec 8) : ForwardOperation :=
  forwardOperations.getD fwrdOp.toNat ⟨.bridge, true, false⟩

abbrev TciFrame := Option (BitVec 16)

/-- The operation passes a frame, for a list of TCIs. -/
def ForwardOperation.Passes (f : ForwardOperation) (list : List (BitVec 16)) : TciFrame → Prop
  | none => f.untaggedBridge = true
  | some tci =>
      match f.tagged with
      | .bridge => True
      | .discard => False
      | .positive field => ∃ entry ∈ list, field.Agrees tci entry
      | .negative field => ¬∃ entry ∈ list, field.Agrees tci entry

/-! ## The tables of the hardware -/

/-- `struct gpe_tagging_filter_table`. -/
structure GpeTaggingFilterTable where
  passOnMatchEnable : Bool
  taggedDropEnable : Bool
  taggedPassEnable : Bool
  untaggedDropEnable : Bool
  tciMask : BitVec 16
  valid : Bool
  vlanTableIndex : BitVec 14
deriving DecidableEq

/-- `struct gpe_tagging`; `num_valid_vlans` is the length of the list of TCIs. -/
structure GpeTagging where
  index : BitVec 32
  taggingFilterTbl : GpeTaggingFilterTable
  vlanTbl : List (BitVec 16)
deriving DecidableEq

/-- What `struct gpe_bridge_port_table` has for tagging filters. -/
structure GpeBridgePortTagging where
  taggingFilterIngress : BitVec 7
  taggingFilterIngressEnable : Bool
  taggingFilterEgress : BitVec 7
  taggingFilterEgressEnable : Bool
deriving DecidableEq

/-- `OMCI_API_VLAN_GRP_SIZE`. -/
def omciApiVlanGrpSize : Nat := 16

/-- `ONU_GPE_TAGGING_FILTER_TABLE_SIZE`. -/
def onuGpeTaggingFilterTableSize : Nat := 128

/-- The number of entries of `vlan_tbl` in `struct gpe_tagging`. -/
def taggingVlanTblSize : Nat := 64

namespace GpeTagging

def lookup (t : GpeTagging) (tci : BitVec 16) : Bool :=
  ((tci &&& t.taggingFilterTbl.tciMask) ∈ t.vlanTbl) == t.taggingFilterTbl.passOnMatchEnable

/-- The hardware passes a frame; an untagged one is looked up with the default outer VID. -/
def passes (t : GpeTagging) (defaultOuterVid : BitVec 16) : TciFrame → Bool
  | none => !t.taggingFilterTbl.untaggedDropEnable && t.lookup defaultOuterVid
  | some tci =>
      if t.taggingFilterTbl.taggedPassEnable then true
      else if t.taggingFilterTbl.taggedDropEnable then false
      else t.lookup tci

end GpeTagging

/-! ## The update -/

/-- `struct vops`. -/
structure Vops where
  index : BitVec 8
  tciMask : BitVec 16
  untaggedDrop : Bool
  taggedPass : Bool
  taggedDrop : Bool
  passOnMatch : Bool
  biDirectional : Bool
  untaggedBridging : Bool
deriving DecidableEq, Inhabited

/-- `vops`. -/
def vops : List Vops :=
  [ ⟨0x00, 0x0000, false, true, false, true, false, true⟩,
    ⟨0x01, 0x0000, false, false, true, false, false, true⟩,
    ⟨0x02, 0x0000, false, true, false, true, false, false⟩,
    ⟨0x03, 0x0fff, false, false, false, true, true, true⟩,
    ⟨0x04, 0x0fff, true, false, false, true, true, false⟩,
    ⟨0x05, 0x0fff, false, false, false, false, false, true⟩,
    ⟨0x06, 0x0fff, true, false, false, false, false, false⟩,
    ⟨0x07, 0xe000, false, false, false, true, true, true⟩,
    ⟨0x08, 0xe000, true, false, false, true, true, false⟩,
    ⟨0x09, 0xe000, false, false, false, false, false, true⟩,
    ⟨0x0a, 0xe000, true, false, false, false, false, false⟩,
    ⟨0x0b, 0xefff, false, false, false, true, true, true⟩,
    ⟨0x0c, 0xefff, true, false, false, true, true, false⟩,
    ⟨0x0d, 0xefff, false, false, false, false, false, true⟩,
    ⟨0x0e, 0xefff, true, false, false, false, false, false⟩,
    ⟨0x0f, 0x0fff, false, false, false, true, true, true⟩,
    ⟨0x10, 0x0fff, true, false, false, true, true, false⟩,
    ⟨0x11, 0xe000, false, false, false, true, true, true⟩,
    ⟨0x12, 0xe000, true, false, false, true, true, false⟩,
    ⟨0x13, 0xefff, false, false, false, true, true, true⟩,
    ⟨0x14, 0xefff, true, false, false, true, true, false⟩,
    ⟨0x15, 0x0000, false, true, false, true, false, false⟩,
    ⟨0x16, 0x0fff, false, false, false, true, false, true⟩,
    ⟨0x17, 0x0fff, true, false, false, true, false, false⟩,
    ⟨0x18, 0xe000, false, false, false, true, false, true⟩,
    ⟨0x19, 0xe000, true, false, false, true, false, false⟩,
    ⟨0x1a, 0xefff, false, false, false, true, false, true⟩,
    ⟨0x1b, 0xefff, true, false, false, true, false, false⟩,
    ⟨0x1c, 0x0fff, false, false, false, true, true, true⟩,
    ⟨0x1d, 0x0fff, true, false, false, true, true, false⟩,
    ⟨0x1e, 0xe000, false, false, false, true, true, true⟩,
    ⟨0x1f, 0xe000, true, false, false, true, true, false⟩,
    ⟨0x20, 0xefff, false, false, false, true, true, true⟩,
    ⟨0x21, 0xefff, true, false, false, true, true, false⟩ ]

/-- `vops[fwrd_op]`; an operation behind the end is taken for the first one. -/
def vopsGet (fwrdOp : BitVec 8) : Vops :=
  vops.getD (if vops.length ≤ fwrdOp.toNat then 0 else fwrdOp.toNat) default

/-- The OMCI API context and the tables that the update uses. The outcomes of the driver calls
and allocations to come are part of it; when they are used up, all succeed. -/
structure TaggingCtx where
  mapper : Mappers
  /-- `struct gpe_sce_constants`. -/
  defaultOuterVid : BitVec 16
  taggingFilter : BitVec 7 → Option GpeTagging
  bridgePort : BitVec 32 → GpeBridgePortTagging
  answers : List Bool

namespace TaggingCtx

def ask : Program TaggingCtx Bool := fun ctx =>
  (some (ctx.answers.headD true), { ctx with answers := ctx.answers.tail })

/-- `dev_ctl`. -/
def devCtl : Program TaggingCtx Unit := do
  let ok ← ask
  if ok then pure () else Program.fail

/-- `bridge_port_idx_get`. -/
def bridgePortIdxGet (meId : BitVec 16) : Program TaggingCtx (BitVec 32) := do
  let ctx ← Program.read
  match ctx.mapper.indexGet MapperIdType.macbridgeportMeidToIdx (meId.setWidth 32) with
  | ⟨.success, some idx, _⟩ => pure idx
  | _ => Program.fail

/-- The group of the ME, or a new one for it. -/
def vlanGrpGet (meId : BitVec 16) : Program TaggingCtx (BitVec 32) := do
  let ctx ← Program.read
  match ctx.mapper.indexGet MapperIdType.vlantfdMeidToVlangrp (meId.setWidth 32) with
  | ⟨.success, some grp, _⟩ => pure grp
  | ⟨.notFound, _, _⟩ => do
      let mem ← ask
      let mapped := ctx.mapper.idMap MapperIdType.vlantfdMeidToVlangrp (meId.setWidth 32) mem
      Program.modify fun ctx => { ctx with mapper := mapped.1 }
      match mapped.2 with
      | ⟨.success, some grp, _⟩ => pure grp
      | _ => Program.fail
  | _ => Program.fail

/-- `FIO_GPE_SCE_CONSTANTS_GET`, if the operation bridges untagged frames. -/
def defaultOuterVidGet (v : Vops) : Program TaggingCtx (Option (BitVec 16)) :=
  if v.untaggedBridging then do
    devCtl
    let ctx ← Program.read
    pure (some ctx.defaultOuterVid)
  else pure none

/-- `FIO_GPE_TAGGING_FILTER_SET`. -/
def taggingFilterSet (tagging : GpeTagging) : Program TaggingCtx Unit := do
  devCtl
  if onuGpeTaggingFilterTableSize ≤ tagging.index.toNat then Program.fail
  else Program.modify fun ctx =>
    { ctx with
      taggingFilter := fun index =>
        if index = tagging.index.setWidth 7 then some tagging else ctx.taggingFilter index }

/-- `table_read` of a bridge port. -/
def bridgePortRead (idx : BitVec 32) : Program TaggingCtx GpeBridgePortTagging := do
  devCtl
  let ctx ← Program.read
  pure (ctx.bridgePort idx)

/-- `table_write` of a bridge port. -/
def bridgePortWrite (idx : BitVec 32) (entry : GpeBridgePortTagging) :
    Program TaggingCtx Unit := do
  devCtl
  Program.modify fun ctx =>
    { ctx with bridgePort := fun other => if other = idx then entry else ctx.bridgePort other }

end TaggingCtx

/-- `OMCI_API_VLAN_TAGGINGFILTERDATA_FILTERLIST_SIZE`. -/
abbrev filterListSize : Nat := 12

def filterTcis (filterList : Vector (BitVec 16) filterListSize) (num : BitVec 8) :
    List (BitVec 16) :=
  filterList.toList.take num.toNat

/-- The entry that an operation is programmed by; the default VID is there if it was read. -/
def vopsTagging (v : Vops) (vlanGrp : BitVec 32) (list : List (BitVec 16))
    (default : Option (BitVec 16)) : GpeTagging :=
  let vlanTbl := list.map (· &&& v.tciMask) ++ default.toList.map (· &&& v.tciMask)
  { index := vlanGrp
    vlanTbl
    taggingFilterTbl :=
      { valid := vlanTbl.length ≠ 0
        passOnMatchEnable := v.passOnMatch
        untaggedDropEnable := v.untaggedDrop
        taggedDropEnable := v.taggedDrop
        taggedPassEnable := v.taggedPass
        tciMask := v.tciMask
        vlanTableIndex := (vlanGrp * BitVec.ofNat 32 omciApiVlanGrpSize).setWidth 14 } }

open TaggingCtx in
/-- `omci_api_vlan_tagging_filter_data_update`. -/
def omciApiVlanTaggingFilterDataUpdate (meId : BitVec 16)
    (filterList : Vector (BitVec 16) filterListSize) (num fwrdOp : BitVec 8) :
    Program TaggingCtx Unit := do
  if filterListSize < num.toNat then Program.fail
  else do
    let bridgePortIdx ← bridgePortIdxGet meId
    let vlanGrp ← vlanGrpGet meId
    let v := vopsGet fwrdOp
    let default ← defaultOuterVidGet v
    taggingFilterSet (vopsTagging v vlanGrp (filterTcis filterList num) default)
    let bridgePort ← bridgePortRead bridgePortIdx
    bridgePortWrite bridgePortIdx
      { bridgePort with
        taggingFilterIngress := vlanGrp.setWidth 7
        taggingFilterIngressEnable := true
        taggingFilterEgress :=
          if v.biDirectional then vlanGrp.setWidth 7 else bridgePort.taggingFilterEgress
        taggingFilterEgressEnable := v.biDirectional }

/-! ## What the filter passes -/

/-- Frames that come in at a bridge port pass. -/
def TaggingCtx.ingressPasses (ctx : TaggingCtx) (bridgePortIdx : BitVec 32) (frame : TciFrame) :
    Bool :=
  let bridgePort := ctx.bridgePort bridgePortIdx
  match bridgePort.taggingFilterIngressEnable, ctx.taggingFilter bridgePort.taggingFilterIngress with
  | true, some t => t.passes ctx.defaultOuterVid frame
  | _, _ => true

/-- A bridge port filters as an operation says. -/
structure TaggingCtx.Filters (ctx : TaggingCtx) (bridgePortIdx : BitVec 32)
    (f : ForwardOperation) (list : List (BitVec 16)) : Prop where
  upstream : ∀ frame, ctx.ingressPasses bridgePortIdx frame = true ↔ f.Passes list frame
  downstream : (ctx.bridgePort bridgePortIdx).taggingFilterEgressEnable = f.bidirectional
  held : ∀ t, ctx.taggingFilter (ctx.bridgePort bridgePortIdx).taggingFilterIngress = some t →
    t.vlanTbl.length ≤ taggingVlanTblSize ∧ t.vlanTbl.length ≤ omciApiVlanGrpSize

/-- When one list of TCIs and one polarity do for tagged and for untagged frames. -/
def ForwardOperation.Programmable (f : ForwardOperation) (list : List (BitVec 16))
    (defaultOuterVid : BitVec 16) : Prop :=
  match f.tagged, f.untaggedBridge with
  | .bridge, true => True
  | .bridge, false => list = []
  | .discard, true => False
  -- no operation of the standard
  | .discard, false => list ≠ []
  | .positive field, true => ∃ entry ∈ list, field.Agrees defaultOuterVid entry
  | .negative _, true => False
  | _, false => True

/-- The mask of what is investigated. -/
def TciField.mask : TciField → BitVec 16
  | .vid => 0x0fff
  | .priority => 0xe000
  | .tci => 0xefff

/-- Masked TCIs are equal if the bits under the mask are. -/
theorem extractLsb'_eq_iff (lo len : Nat) {mask : BitVec 16}
    (hmask : ∀ i < 16, mask.getLsbD i = decide (lo ≤ i ∧ i < lo + len)) (a b : BitVec 16) :
    a.extractLsb' lo len = b.extractLsb' lo len ↔ a &&& mask = b &&& mask := by
  constructor
  · intro hfield
    apply BitVec.eq_of_getLsbD_eq
    intro i hi
    rw [BitVec.getLsbD_and, BitVec.getLsbD_and, hmask i hi]
    by_cases hin : lo ≤ i ∧ i < lo + len
    · have hbit := congrArg (BitVec.getLsbD · (i - lo)) hfield
      have hlt : i - lo < len := by omega
      have hsum : lo + (i - lo) = i := by omega
      simp only [BitVec.getLsbD_extractLsb', hlt, decide_true, Bool.true_and, hsum] at hbit
      rw [hbit]
    · simp [hin]
  · intro hmasked
    apply BitVec.eq_of_getLsbD_eq
    intro i hi
    rw [BitVec.getLsbD_extractLsb', BitVec.getLsbD_extractLsb']
    by_cases hwidth : lo + i < 16
    · have hbit := congrArg (BitVec.getLsbD · (lo + i)) hmasked
      have hin : lo ≤ lo + i ∧ lo + i < lo + len := by omega
      simp only [BitVec.getLsbD_and, hmask (lo + i) hwidth, hin, and_self, decide_true,
        Bool.and_true] at hbit
      rw [hbit]
    · rw [BitVec.getLsbD_of_ge a (lo + i) (by omega), BitVec.getLsbD_of_ge b (lo + i) (by omega)]

theorem and_or_eq_iff (a b m n : BitVec 16) :
    a &&& (m ||| n) = b &&& (m ||| n) ↔ a &&& m = b &&& m ∧ a &&& n = b &&& n := by
  simp only [BitVec.eq_of_getLsbD_eq_iff, BitVec.getLsbD_and, BitVec.getLsbD_or]
  grind

theorem TciField.agrees_iff (field : TciField) (a b : BitVec 16) :
    field.Agrees a b ↔ a &&& field.mask = b &&& field.mask := by
  have hvid : _ ↔ a &&& 0x0fff = b &&& 0x0fff := extractLsb'_eq_iff 0 12 (by decide) a b
  have hpriority : _ ↔ a &&& 0xe000 = b &&& 0xe000 := extractLsb'_eq_iff 13 3 (by decide) a b
  cases field with
  | vid => exact hvid
  | priority => exact hpriority
  | tci =>
      rw [show TciField.tci.mask = 0x0fff ||| 0xe000 from rfl, and_or_eq_iff, ← hvid, ← hpriority]
      rfl

/-- The row of an operation. -/
def ForwardOperation.row (f : ForwardOperation) (index : BitVec 8) : Vops where
  index := index
  tciMask :=
    match f.tagged with
    | .positive field | .negative field => field.mask
    | _ => 0
  untaggedDrop :=
    match f.tagged with
    | .positive _ | .negative _ => !f.untaggedBridge
    | _ => false
  taggedPass := f.tagged = .bridge
  taggedDrop := f.tagged = .discard
  passOnMatch :=
    match f.tagged with
    | .positive _ | .bridge => true
    | _ => false
  biDirectional := f.bidirectional
  untaggedBridging := f.untaggedBridge

theorem vopsGet_eq (fwrdOp : BitVec 8) (hop : fwrdOp ≤ 0x21) :
    vopsGet fwrdOp = (forwardOperation fwrdOp).row fwrdOp := by
  have hrows : ∀ op < 34, vopsGet (BitVec.ofNat 8 op) =
      (forwardOperation (BitVec.ofNat 8 op)).row (BitVec.ofNat 8 op) := by
    decide +kernel
  have hlt : fwrdOp.toNat < 34 := by
    have := BitVec.le_def.mp hop
    simp at this
    omega
  simpa using hrows fwrdOp.toNat hlt

section Passes

variable {v : Vops} {grp : BitVec 32} {list : List (BitVec 16)} {default : Option (BitVec 16)}
  {vid tci : BitVec 16}

theorem lookup_vopsTagging : (vopsTagging v grp list default).lookup tci = true ↔
      ((∃ entry ∈ list ++ default.toList, tci &&& v.tciMask = entry &&& v.tciMask) ↔
        v.passOnMatch = true) := by
  have hmem : (tci &&& v.tciMask) ∈ (vopsTagging v grp list default).vlanTbl ↔
      ∃ entry ∈ list ++ default.toList, tci &&& v.tciMask = entry &&& v.tciMask := by
    rw [vopsTagging, ← List.map_append, List.mem_map]
    simp only [eq_comm]
  rw [GpeTagging.lookup, beq_iff_eq, Bool.eq_iff_iff, decide_eq_true_iff]
  exact iff_congr hmem Iff.rfl

theorem passes_none : (vopsTagging v grp list default).passes vid none = true ↔
      v.untaggedDrop = false ∧ (vopsTagging v grp list default).lookup vid = true := by
  rw [GpeTagging.passes, Bool.and_eq_true, Bool.not_eq_true']
  rfl

theorem passes_some : (vopsTagging v grp list default).passes vid (some tci) = true ↔
      v.taggedPass = true ∨
        v.taggedDrop = false ∧ (vopsTagging v grp list default).lookup tci = true := by
  have hpass : (vopsTagging v grp list default).passes vid (some tci) =
      if v.taggedPass then true else if v.taggedDrop then false
      else (vopsTagging v grp list default).lookup tci := rfl
  rw [hpass]
  cases v.taggedPass <;> cases v.taggedDrop <;> simp

/-- The filter of an operation passes the frames that the operation passes. -/
theorem passes_row_iff (f : ForwardOperation) (index : BitVec 8) (grp : BitVec 32)
    (list : List (BitVec 16)) (vid : BitVec 16) : (∀ frame, (vopsTagging (f.row index) grp list
        (if f.untaggedBridge then some vid else none)).passes vid frame = true ↔
          f.Passes list frame) ↔
      f.Programmable list vid := by
  rw [Option.forall, passes_none, lookup_vopsTagging]
  simp only [passes_some, lookup_vopsTagging]
  obtain ⟨tagged, untaggedBridge, bidirectional⟩ := f
  cases tagged with
  | bridge =>
      cases untaggedBridge with
      | false =>
          simpa [ForwardOperation.row, ForwardOperation.Passes, ForwardOperation.Programmable]
            using List.eq_nil_iff_forall_not_mem.symm
      | true =>
          simp [ForwardOperation.row, ForwardOperation.Passes, ForwardOperation.Programmable]
  | discard =>
      cases untaggedBridge with
      | false =>
          have hsome : (∃ entry, entry ∈ list) ↔ list ≠ [] :=
            ⟨fun hentry => List.ne_nil_of_mem hentry.choose_spec, List.exists_mem_of_ne_nil list⟩
          simpa [ForwardOperation.row, ForwardOperation.Passes, ForwardOperation.Programmable]
            using hsome
      | true =>
          -- the default VID is in the list, and what is in the list is dropped
          simp [ForwardOperation.row, ForwardOperation.Passes, ForwardOperation.Programmable]
  | positive field =>
      cases untaggedBridge with
      | false =>
          simp [ForwardOperation.row, ForwardOperation.Passes, ForwardOperation.Programmable,
            TciField.agrees_iff]
      | true =>
          have hshared : (∀ tci, ((∃ entry ∈ list, tci &&& field.mask = entry &&& field.mask) ∨
                tci &&& field.mask = vid &&& field.mask ↔
                  ∃ entry ∈ list, tci &&& field.mask = entry &&& field.mask)) ↔
              ∃ entry ∈ list, vid &&& field.mask = entry &&& field.mask := by
            constructor
            · intro hall
              exact (hall vid).mp (.inr rfl)
            · rintro ⟨entry, hentry, hvid⟩ tci
              exact or_iff_left_of_imp fun htci => ⟨entry, hentry, htci.trans hvid⟩
          simpa [ForwardOperation.row, ForwardOperation.Passes, ForwardOperation.Programmable,
            TciField.agrees_iff] using hshared
  | negative field =>
      cases untaggedBridge with
      | false =>
          simp [ForwardOperation.row, ForwardOperation.Passes, ForwardOperation.Programmable,
            TciField.agrees_iff]
      | true =>
          simp [ForwardOperation.row, ForwardOperation.Passes, ForwardOperation.Programmable]

end Passes

/-! ## Runs of the update -/

section Update

variable {ctx ctx' : TaggingCtx} {meId : BitVec 16} {idx grp : BitVec 32} {u : Unit}

namespace TaggingCtx

/-- The tables are as they were. -/
structure SameTables (ctx ctx' : TaggingCtx) : Prop where
  defaultOuterVid : ctx'.defaultOuterVid = ctx.defaultOuterVid
  bridgePort : ctx'.bridgePort = ctx.bridgePort
  taggingFilter : ctx'.taggingFilter = ctx.taggingFilter

theorem returns_ask {ok : Bool} (h : ask.Returns ctx ok ctx') :
    ok = ctx.answers.headD true ∧ SameTables ctx ctx' := by
  cases h
  exact ⟨rfl, rfl, rfl, rfl⟩

theorem returns_devCtl (h : devCtl.Returns ctx u ctx') : SameTables ctx ctx' := by
  obtain ⟨ok, ctx₁, hask, hrest⟩ := Program.returns_bind.mp h
  have hsame := (returns_ask hask).2
  cases ok with
  | false => exact absurd hrest Program.not_returns_fail
  | true =>
      obtain ⟨-, rfl⟩ := Program.returns_pure.mp hrest
      exact hsame

theorem returns_bridgePortIdxGet (h : (bridgePortIdxGet meId).Returns ctx idx ctx') :
    (ctx.mapper.indexGet MapperIdType.macbridgeportMeidToIdx (meId.setWidth 32)).key = some idx ∧
      ctx' = ctx := by
  obtain ⟨_, _, hread, hrest⟩ := Program.returns_bind.mp h
  obtain ⟨rfl, rfl⟩ := Program.returns_read.mp hread
  split at hrest
  · rename_i hget
    obtain ⟨rfl, hsame⟩ := Program.returns_pure.mp hrest
    exact ⟨by rw [hget], hsame⟩
  · exact absurd hrest Program.not_returns_fail

/-- A group is found or made without a change of the tables. -/
theorem returns_vlanGrpGet (h : (vlanGrpGet meId).Returns ctx grp ctx') : SameTables ctx ctx' := by
  obtain ⟨_, _, hread, hrest⟩ := Program.returns_bind.mp h
  obtain ⟨rfl, rfl⟩ := Program.returns_read.mp hread
  split at hrest
  · obtain ⟨-, rfl⟩ := Program.returns_pure.mp hrest
    exact ⟨rfl, rfl, rfl⟩
  · obtain ⟨mem, ctx₁, hask, hrest⟩ := Program.returns_bind.mp hrest
    obtain ⟨-, hvid, hport, hfilter⟩ := returns_ask hask
    obtain ⟨_, ctx₂, hmodify, hrest⟩ := Program.returns_bind.mp hrest
    have hmapped := Program.returns_modify.mp hmodify
    split at hrest
    · obtain ⟨-, rfl⟩ := Program.returns_pure.mp hrest
      rw [hmapped]
      exact ⟨hvid, hport, hfilter⟩
    · exact absurd hrest Program.not_returns_fail
  · exact absurd hrest Program.not_returns_fail

theorem returns_defaultOuterVidGet {v : Vops} {default : Option (BitVec 16)}
    (h : (defaultOuterVidGet v).Returns ctx default ctx') :
    default = (if v.untaggedBridging then some ctx.defaultOuterVid else none) ∧
      SameTables ctx ctx' := by
  rw [defaultOuterVidGet] at h
  split at h <;> rename_i hbridging
  · obtain ⟨_, ctx₁, hcall, hrest⟩ := Program.returns_bind.mp h
    have hsame := returns_devCtl hcall
    obtain ⟨_, _, hread, hrest⟩ := Program.returns_bind.mp hrest
    obtain ⟨rfl, rfl⟩ := Program.returns_read.mp hread
    obtain ⟨rfl, rfl⟩ := Program.returns_pure.mp hrest
    exact ⟨by rw [hsame.defaultOuterVid, if_pos hbridging], hsame⟩
  · obtain ⟨rfl, rfl⟩ := Program.returns_pure.mp h
    exact ⟨(if_neg hbridging).symm, rfl, rfl, rfl⟩

theorem returns_taggingFilterSet {tagging : GpeTagging}
    (h : (taggingFilterSet tagging).Returns ctx u ctx') :
    ctx'.defaultOuterVid = ctx.defaultOuterVid ∧ ctx'.bridgePort = ctx.bridgePort ∧
      ctx'.taggingFilter (tagging.index.setWidth 7) = some tagging := by
  obtain ⟨_, ctx₁, hcall, hrest⟩ := Program.returns_bind.mp h
  have hsame := returns_devCtl hcall
  split at hrest
  · exact absurd hrest Program.not_returns_fail
  · rw [Program.returns_modify.mp hrest]
    exact ⟨hsame.defaultOuterVid, hsame.bridgePort, if_pos rfl⟩

theorem returns_bridgePortRead {entry : GpeBridgePortTagging}
    (h : (bridgePortRead idx).Returns ctx entry ctx') :
    entry = ctx.bridgePort idx ∧ SameTables ctx ctx' := by
  obtain ⟨_, ctx₁, hcall, hrest⟩ := Program.returns_bind.mp h
  have hsame := returns_devCtl hcall
  obtain ⟨_, _, hread, hrest⟩ := Program.returns_bind.mp hrest
  obtain ⟨rfl, rfl⟩ := Program.returns_read.mp hread
  obtain ⟨rfl, rfl⟩ := Program.returns_pure.mp hrest
  exact ⟨by rw [hsame.bridgePort], hsame⟩

theorem returns_bridgePortWrite {entry : GpeBridgePortTagging}
    (h : (bridgePortWrite idx entry).Returns ctx u ctx') :
    ctx'.defaultOuterVid = ctx.defaultOuterVid ∧ ctx'.taggingFilter = ctx.taggingFilter ∧
      ctx'.bridgePort idx = entry := by
  obtain ⟨_, ctx₁, hcall, hrest⟩ := Program.returns_bind.mp h
  have hsame := returns_devCtl hcall
  rw [Program.returns_modify.mp hrest]
  exact ⟨hsame.defaultOuterVid, hsame.taggingFilter, if_pos rfl⟩

end TaggingCtx

/-- What an update that succeeds leaves: a filter, and a bridge port that points to it. -/
structure TaggingUpdated (ctx ctx' : TaggingCtx) (meId : BitVec 16) (v : Vops)
    (list : List (BitVec 16)) (idx grp : BitVec 32) : Prop where
  port : (ctx.mapper.indexGet MapperIdType.macbridgeportMeidToIdx (meId.setWidth 32)).key =
    some idx
  num : list.length ≤ filterListSize
  defaultOuterVid : ctx'.defaultOuterVid = ctx.defaultOuterVid
  ingress : (ctx'.bridgePort idx).taggingFilterIngress = grp.setWidth 7
  ingressEnable : (ctx'.bridgePort idx).taggingFilterIngressEnable = true
  egressEnable : (ctx'.bridgePort idx).taggingFilterEgressEnable = v.biDirectional
  filter : ctx'.taggingFilter (grp.setWidth 7) = some (vopsTagging v grp list
    (if v.untaggedBridging then some ctx.defaultOuterVid else none))

open TaggingCtx in
theorem exists_taggingUpdated {filterList : Vector (BitVec 16) filterListSize}
    {num fwrdOp : BitVec 8}
    (h : (omciApiVlanTaggingFilterDataUpdate meId filterList num fwrdOp).Returns ctx u ctx') :
    ∃ idx grp, TaggingUpdated ctx ctx' meId (vopsGet fwrdOp) (filterTcis filterList num)
      idx grp := by
  rw [omciApiVlanTaggingFilterDataUpdate] at h
  split at h
  · exact absurd h Program.not_returns_fail
  · obtain ⟨idx, _, hidx, hrest⟩ := Program.returns_bind.mp h
    obtain ⟨hport, rfl⟩ := returns_bridgePortIdxGet hidx
    obtain ⟨grp, ctx₁, hgrp, hrest⟩ := Program.returns_bind.mp hrest
    have hfound := returns_vlanGrpGet hgrp
    obtain ⟨default, ctx₂, hdefault, hrest⟩ := Program.returns_bind.mp hrest
    obtain ⟨hvalue, hasked⟩ := returns_defaultOuterVidGet hdefault
    rw [hfound.defaultOuterVid] at hvalue
    obtain ⟨_, ctx₃, hset, hrest⟩ := Program.returns_bind.mp hrest
    obtain ⟨hvid₃, -, hfilter₃⟩ := returns_taggingFilterSet hset
    rw [hvalue] at hfilter₃
    obtain ⟨entry, ctx₄, hread, hrest⟩ := Program.returns_bind.mp hrest
    have hread := (returns_bridgePortRead hread).2
    obtain ⟨hvid, hfilter, hwritten⟩ := returns_bridgePortWrite hrest
    refine ⟨idx, grp, ?_⟩
    exact
      { port := hport
        num := by simp [filterTcis]
        defaultOuterVid := by
          rw [hvid, hread.defaultOuterVid, hvid₃, hasked.defaultOuterVid, hfound.defaultOuterVid]
        ingress := by rw [hwritten]
        ingressEnable := by rw [hwritten]
        egressEnable := by rw [hwritten]
        filter := by
          rw [hfilter, hread.taggingFilter]
          exact hfilter₃ }

/-- An update that succeeds makes its bridge port filter as the operation says exactly if one
list of TCIs does for tagged and for untagged frames. -/
theorem update_filters_iff {filterList : Vector (BitVec 16) filterListSize}
    {num fwrdOp : BitVec 8} (hop : fwrdOp ≤ 0x21)
    (hport : ctx.mapper.indexGet MapperIdType.macbridgeportMeidToIdx (meId.setWidth 32) =
      .found idx) (hupdate :
      (omciApiVlanTaggingFilterDataUpdate meId filterList num fwrdOp).Returns ctx () ctx') :
    ctx'.Filters idx (forwardOperation fwrdOp) (filterTcis filterList num) ↔
      (forwardOperation fwrdOp).Programmable (filterTcis filterList num) ctx.defaultOuterVid := by
  obtain ⟨idx', grp, hupdated⟩ := exists_taggingUpdated hupdate
  have hidx : idx' = idx := by
    have hkey := hupdated.port
    rw [hport] at hkey
    exact (Option.some.inj hkey).symm
  subst hidx
  have hfilter := hupdated.filter
  have hegress := hupdated.egressEnable
  rw [vopsGet_eq fwrdOp hop] at hfilter hegress
  have hpasses : ∀ frame, ctx'.ingressPasses idx' frame =
      (vopsTagging ((forwardOperation fwrdOp).row fwrdOp) grp (filterTcis filterList num)
        (if (forwardOperation fwrdOp).untaggedBridge then some ctx.defaultOuterVid
          else none)).passes ctx.defaultOuterVid frame := by
    intro frame
    simp only [TaggingCtx.ingressPasses, hupdated.ingressEnable, hupdated.ingress, hfilter,
      hupdated.defaultOuterVid]
    rfl
  rw [← passes_row_iff _ fwrdOp grp]
  constructor
  · intro hfilters frame
    rw [← hpasses]
    exact hfilters.upstream frame
  · intro hmeets
    exact
      { upstream := fun frame => by rw [hpasses]; exact hmeets frame
        downstream := hegress
        held := by
          intro t ht
          rw [hupdated.ingress, hfilter] at ht
          cases ht
          have hlength : (vopsTagging ((forwardOperation fwrdOp).row fwrdOp) grp
              (filterTcis filterList num) (if (forwardOperation fwrdOp).untaggedBridge then
                some ctx.defaultOuterVid else none)).vlanTbl.length ≤ filterListSize + 1 := by
            rw [vopsTagging, List.length_append, List.length_map, List.length_map]
            refine Nat.add_le_add hupdated.num ?_
            split <;> simp
          exact ⟨hlength.trans (by decide), hlength.trans (by decide)⟩ }

end Update

/-- A bridge port with ME id 1 and no filter yet; the default outer VID is 0. -/
def taggingExample : TaggingCtx where
  mapper := ((Mappers.init 8).idMap MapperIdType.macbridgeportMeidToIdx 1 true).1
  defaultOuterVid := 0
  taggingFilter _ := none
  bridgePort _ := ⟨0, false, 0, false⟩
  answers := []

def taggingExampleUpdated (fwrdOp : BitVec 8) : TaggingCtx :=
  (omciApiVlanTaggingFilterDataUpdate 1 (Vector.replicate filterListSize 7) 1 fwrdOp
    taggingExample).2

/-- Passing VID 7 only, upstream and downstream, can be programmed. -/
theorem update_filters_vid : (taggingExampleUpdated 0x04).Filters 0 (forwardOperation 0x04) [7] ↔
      (forwardOperation 0x04).Programmable [7] 0 := by
  have hupdate : (omciApiVlanTaggingFilterDataUpdate 1 (Vector.replicate filterListSize 7) 1
      0x04).Returns taggingExample () (taggingExampleUpdated 0x04) :=
    Program.returns_of_isSome (by decide +kernel)
  exact update_filters_iff (by decide) (by decide +kernel) hupdate

/-- The operation that discards VID 7 and bridges untagged frames drops untagged frames. -/
theorem not_update_filters :
    (omciApiVlanTaggingFilterDataUpdate 1 (Vector.replicate filterListSize 7) 1 0x05).Returns
        taggingExample () (taggingExampleUpdated 0x05) ∧
      ¬(taggingExampleUpdated 0x05).Filters 0 (forwardOperation 0x05) [7] := by
  refine ⟨Program.returns_of_isSome (by decide +kernel), fun hfilters => ?_⟩
  have huntagged : (taggingExampleUpdated 0x05).ingressPasses 0 none = true :=
    (hfilters.upstream none).mpr rfl
  exact absurd huntagged (by decide +kernel)

end FalconGpon.Vlan
