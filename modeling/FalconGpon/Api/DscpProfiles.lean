/-
# DSCP profiles of the 802.1p mappers

The eight profiles map the 64 DSCP values to P-bits. A mapper whose unmarked frame option is
to derive the priority from DSCP uses one, and mappers with equal maps share it:
`ctx->dscp_prio_map` counts the mappers of each profile.

Updates and destroys of mappers are modelled with the tables they write, `index_get` and the
like being those of `Mappers`. Accesses to hardware tables succeed. `DscpCtx.given` is
history.
-/

import FalconGpon.Api.MapperPairs
import Mathlib.Data.Finset.Card
import Mathlib.Data.Fintype.Basic

namespace FalconGpon.Api

open FalconGpon.Lib

/-! ## Maps -/

abbrev DscpPrioMap := BitVec 192

/-- `dscp_prio_map[k]`. -/
def dscpPrioByte (dscpPrioMap : DscpPrioMap) (k : Nat) : BitVec 8 :=
  dscpPrioMap.extractLsb' (8 * (23 - k)) 8

/-- The test of one bit in `map2pcp`. -/
def dscpBit (dscpPrioMap : DscpPrioMap) (bit : Nat) : Bool :=
  dscpPrioByte dscpPrioMap (bit / 8) &&& (0x80#8 >>> (bit % 8)) != 0

/-- `map2pcp`; the bits of a group below 64 lie within the map. -/
def map2pcp (dscpPrioMap : DscpPrioMap) (group : Nat) : BitVec 8 :=
  if 64 ≤ group then 0
  else
    let bit1 : BitVec 8 := if dscpBit dscpPrioMap (group * 3) then 4 else 0
    let bit2 : BitVec 8 := if dscpBit dscpPrioMap (group * 3 + 1) then 2 else 0
    let bit3 : BitVec 8 := if dscpBit dscpPrioMap (group * 3 + 2) then 1 else 0
    bit3 ||| bit2 ||| bit1

def dscpGroup (dscpPrioMap : DscpPrioMap) (group : Fin 64) : BitVec 3 :=
  dscpPrioMap.extractLsb' (189 - 3 * group) 3

/-! ## The context and the tables -/

/-- `struct gpe_pmapper_table`, without the meters. -/
structure GpePmapper where
  valid : Bool
  itpId : Fin 8 → BitVec 8
  /-- 0: DSCP, 1: the default PCP value. -/
  unmarkedFrameOption : BitVec 1
  defaultPcp : BitVec 3
  dscpTablePointer : BitVec 3

/-- `struct gpe_dscp_decoding_table`. -/
structure GpeDscpDecoding where
  color : BitVec 2
  de : BitVec 1
  pcp : BitVec 3
deriving DecidableEq

def GpePmapper.void : GpePmapper := ⟨false, fun _ => 0, 0, 0, 0⟩

/-- The mappers, the profiles and the hardware tables. -/
structure DscpCtx where
  mapper : Mappers
  /-- `ctx->dscp_prio_map[i][0]`. -/
  refCount : Fin 8 → BitVec 8
  /-- `ctx->dscp_prio_map[i]` from its second byte on. -/
  dscpPrioMap : Fin 8 → DscpPrioMap
  pcp : Fin 8 → Fin 64 → BitVec 8
  /-- `ONU_GPE_PMAPPER_TABLE`. -/
  pmapper : Fin 32 → GpePmapper
  /-- `ONU_GPE_DSCP_DECODING_TABLE`. -/
  dscpDecoding : Nat → GpeDscpDecoding
  /-- The maps of the last updates. -/
  given : Fin 32 → DscpPrioMap

def pmapperEntry (pmapperIndex : BitVec 32) : Fin 32 := Fin.ofNat 32 pmapperIndex.toNat

/-- After start-up. -/
def DscpCtx.init (maxBridgePort : BitVec 32) (dscpDecoding : Nat → GpeDscpDecoding) : DscpCtx where
  mapper := .init maxBridgePort
  refCount _ := 0
  dscpPrioMap _ := 0
  pcp _ _ := 0
  pmapper _ := .void
  dscpDecoding := dscpDecoding
  given _ := 0

/-! ## Profiles -/

namespace DscpCtx

/-- The loop of `dscp_profile_create`: the profile in use that has the map, and the first free
one before it. -/
def dscpProfileFind (ctx : DscpCtx) (dscpPrioMap : DscpPrioMap) :
    List (Fin 8) → Option (Fin 8) → Option (Fin 8) × Option (Fin 8)
  | [], idx => (none, idx)
  | i :: rest, idx =>
      if ctx.refCount i = 0 then ctx.dscpProfileFind dscpPrioMap rest (idx.or (some i))
      else if dscpPrioMap = ctx.dscpPrioMap i then (some i, idx)
      else ctx.dscpProfileFind dscpPrioMap rest idx

/-- `dscp_profile_create`. -/
def dscpProfileCreate (ctx : DscpCtx) (dscpPrioMap : DscpPrioMap) : DscpCtx × Nat :=
  match ctx.dscpProfileFind dscpPrioMap (List.finRange 8) none with
  | (some i, _) =>
      ({ ctx with refCount := Function.update ctx.refCount i (ctx.refCount i + 1) }, i)
  | (none, some idx) =>
      ({ ctx with
        refCount := Function.update ctx.refCount idx 1
        dscpPrioMap := Function.update ctx.dscpPrioMap idx dscpPrioMap
        pcp := Function.update ctx.pcp idx fun i => map2pcp dscpPrioMap i }, idx)
  | (none, none) => (ctx, 255)

/-- `dscp_profile_delete`. -/
def dscpProfileDelete (ctx : DscpCtx) (dscpProfile : Fin 8) : DscpCtx :=
  if ctx.refCount dscpProfile ≠ 0 then
    { ctx with
      refCount := Function.update ctx.refCount dscpProfile (ctx.refCount dscpProfile - 1) }
  else ctx

/-- `omci_api_dscp_profile_add`: the 64 entries of a profile. -/
def omciApiDscpProfileAdd (ctx : DscpCtx) (dscpProfileIndex : Nat) (pcp : Fin 64 → BitVec 8) :
    DscpCtx :=
  { ctx with
    dscpDecoding := fun i =>
      if i / 64 = dscpProfileIndex then ⟨0, 0, (pcp (Fin.ofNat 64 i)).setWidth 3⟩
      else ctx.dscpDecoding i }

/-- `omci_api_pmapper_add`: the fields take what fits into them. -/
def omciApiPmapperAdd (ctx : DscpCtx) (pmapperIndex : BitVec 32) (gpix : Fin 8 → BitVec 32)
    (unmarkedFrameOption defaultPriorityMarking : BitVec 8) (dscpProfileIndex : Nat) : DscpCtx :=
  { ctx with
    pmapper := Function.update ctx.pmapper (pmapperEntry pmapperIndex)
      { valid := true
        itpId := fun i => (gpix i).setWidth 8
        unmarkedFrameOption := unmarkedFrameOption.setWidth 1
        defaultPcp := defaultPriorityMarking.setWidth 3
        dscpTablePointer := BitVec.ofNat 3 dscpProfileIndex } }

/-- `omci_api_pmapper_remove`. -/
def omciApiPmapperRemove (ctx : DscpCtx) (pmapperIndex : BitVec 32) : DscpCtx :=
  { ctx with pmapper := Function.update ctx.pmapper (pmapperEntry pmapperIndex) .void }

end DscpCtx

/-! ## Mappers -/

/-- The arguments of `omci_api_8021p_mapper_service_profile_update` that it looks at. -/
structure MapperUpdate where
  meId : BitVec 16
  gemPortId : Fin 8 → BitVec 16
  unmarkedFrameOpt : BitVec 8
  dscpPrioMap : DscpPrioMap
  defaultPriorityMarking : BitVec 8
  tpPointerType : BitVec 8
  /-- There is memory for a new pair. -/
  mem : Bool
  /-- What `pmapper_index` holds at first. -/
  pmapperIndex : BitVec 32

namespace DscpCtx

/-- The index of the mapper, which gets one if it has none, or the code if that fails. -/
def updateIndex (ctx : DscpCtx) (update : MapperUpdate) :
    Mappers × Except OmciApiReturn (BitVec 32) :=
  let id := update.meId.setWidth 32
  match ctx.mapper.indexGet MapperIdType.dot1pmapperMeidToIdx id with
  | ⟨.success, some pmapperIndex, _⟩ => (ctx.mapper, .ok pmapperIndex)
  | ⟨.notFound, _, _⟩ =>
      match ctx.mapper.idMap MapperIdType.dot1pmapperMeidToIdx id update.mem with
      | (mapper, ⟨.success, some pmapperIndex, _⟩) => (mapper, .ok pmapperIndex)
      | (mapper, ⟨ret, _, _⟩) => (mapper, .error ret)
  | _ => (ctx.mapper, .ok update.pmapperIndex)

/-- The GEM ports of the priorities. -/
def gpixGet (ctx : DscpCtx) (gemPortId : BitVec 16) : BitVec 32 :=
  if gemPortId = 0xffff then 0xffff
  else
    match ctx.mapper.indexGet MapperIdType.gemitpMeidToGpix (gemPortId.setWidth 32) with
    | ⟨.success, some gpix, _⟩ => gpix
    | _ => 0xffff

/-- The profile for an update; a new one is written to the hardware table, too. -/
def updateProfile (ctx : DscpCtx) (update : MapperUpdate) : DscpCtx × Nat :=
  if update.unmarkedFrameOpt = 0 then
    let created := ctx.dscpProfileCreate update.dscpPrioMap
    if hindex : created.2 < 8 then
      (created.1.omciApiDscpProfileAdd created.2 (created.1.pcp ⟨created.2, hindex⟩), created.2)
    else created
  else (ctx, 0)

/-- `omci_api_8021p_mapper_service_profile_update`. -/
def mapperUpdate (ctx : DscpCtx) (update : MapperUpdate) : DscpCtx × OmciApiReturn :=
  if update.tpPointerType ≠ 0 then (ctx, .error)
  else
    match ctx.updateIndex update with
    | (mapper, .error ret) => ({ ctx with mapper := mapper }, ret)
    | (mapper, .ok pmapperIndex) =>
        let ctx := { ctx with mapper := mapper }
        let gpix := fun i => ctx.gpixGet (update.gemPortId i)
        let profile := ctx.updateProfile update
        let ctx := profile.1.omciApiPmapperAdd pmapperIndex gpix update.unmarkedFrameOpt
          update.defaultPriorityMarking profile.2
        ({ ctx with
          given := Function.update ctx.given (pmapperEntry pmapperIndex) update.dscpPrioMap },
          .success)

/-- `omci_api_8021p_mapper_service_profile_destroy`. -/
def mapperDestroy (ctx : DscpCtx) (meId : BitVec 16) : DscpCtx × OmciApiReturn :=
  match ctx.mapper.indexGet MapperIdType.dot1pmapperMeidToIdx (meId.setWidth 32) with
  | ⟨.success, some pmapperIndex, _⟩ =>
      let pmapper := ctx.pmapper (pmapperEntry pmapperIndex)
      let ctx :=
        if pmapper.valid then ctx.dscpProfileDelete pmapper.dscpTablePointer.toFin else ctx
      let ctx := ctx.omciApiPmapperRemove pmapperIndex
      let removed := ctx.mapper.indexRemove MapperIdType.dot1pmapperMeidToIdx pmapperIndex
      ({ ctx with mapper := removed.1 }, removed.2.ret)
  | ⟨ret, _, _⟩ => (ctx, ret)

end DscpCtx

/-- What can happen. -/
inductive DscpEvent
  | update (update : MapperUpdate)
  | destroy (meId : BitVec 16)

def DscpCtx.run (ctx : DscpCtx) : DscpEvent → DscpCtx × OmciApiReturn
  | .update update => ctx.mapperUpdate update
  | .destroy meId => ctx.mapperDestroy meId

def dscpStep (ctx : DscpCtx) (event : DscpEvent) : Option DscpCtx := some (ctx.run event).1

end FalconGpon.Api
