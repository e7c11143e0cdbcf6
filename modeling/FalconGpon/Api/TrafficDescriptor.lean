/-
# Traffic descriptors and their shapers

A traffic descriptor keeps the meters and the token bucket shapers that it is attached to, in two
arrays of blocks. A shaper serves all descriptors that are attached to it: it is programmed with
the largest of their rates when one is attached or changed, and with the defaults when one is taken
off.

The mapper knows the descriptors and the shapers of the requests: it hands out indices below 33 for
the ones and below 256 for the others. The configuration of the meters is left out.
-/

import FalconGpon.Api.Mapper
import FalconGpon.Lib.Provision
import Mathlib.Order.Lattice.Nat

namespace FalconGpon.Api

open FalconGpon.Lib

/-! ## Rates -/

/-- Committed and peak rates and burst sizes. -/
structure Rates where
  cir : Nat
  pir : Nat
  cbs : Nat
  pbs : Nat
deriving DecidableEq

namespace Rates

def toProd (rates : Rates) : Nat × Nat × Nat × Nat :=
  (rates.cir, rates.pir, rates.cbs, rates.pbs)

theorem toProd_injective : Function.Injective toProd := by
  intro a b h
  simp only [toProd, Prod.mk.injEq] at h
  cases a
  cases b
  simp only [mk.injEq]
  exact h

instance : LE Rates :=
  ⟨fun a b => a.toProd ≤ b.toProd⟩

instance : LT Rates :=
  ⟨fun a b => a.toProd < b.toProd⟩

/-- `MAX` of each component. -/
instance : Max Rates :=
  ⟨fun a b => ⟨max a.cir b.cir, max a.pir b.pir, max a.cbs b.cbs, max a.pbs b.pbs⟩⟩

instance : SemilatticeSup Rates :=
  toProd_injective.semilatticeSup toProd Iff.rfl Iff.rfl fun _ _ => rfl

instance : OrderBot Rates where
  bot := ⟨0, 0, 0, 0⟩
  bot_le rates := (bot_le : (⊥ : Nat × Nat × Nat × Nat) ≤ rates.toProd)

end Rates

/-! ## Blocks -/

/-- `struct omci_api_block`. -/
structure OmciApiBlock where
  index : BitVec 8
  enable : Bool
deriving DecidableEq

/-- `MAX_TD_METER` or `MAX_TD_SHAPER` blocks. -/
abbrev Blocks := Fin 32 → OmciApiBlock

namespace Blocks

variable (blocks : Blocks)

def indices : List (BitVec 8) :=
  ((List.finRange 32).filter fun i => (blocks i).enable).map fun i => (blocks i).index

/-- Take the first free block. -/
def attach (index : BitVec 8) : Blocks × OmciApiReturn :=
  match (List.finRange 32).find? fun i => !(blocks i).enable with
  | some i => (Function.update blocks i ⟨index, true⟩, .success)
  | none => (blocks, .error)

/-- `omci_api_traffic_descriptor_meter_detach`. The loop goes through to the end, which is taken
for an index that was not found. -/
def meterDetach (meterIdx : BitVec 8) : Blocks × OmciApiReturn :=
  (fun i => if (blocks i).enable ∧ (blocks i).index = meterIdx then ⟨0, false⟩ else blocks i, .error)

def disable : Blocks :=
  fun i => { blocks i with enable := false }

/-- `omci_api_traffic_descriptor_shaper_detach`, whose loop goes through to the end as well. -/
def shaperDetach : Blocks × OmciApiReturn :=
  (blocks.disable, .error)

end Blocks

/-! ## Descriptors -/

/-- The attributes of a traffic descriptor. -/
structure TdParams where
  rates : Rates
  colorMode : BitVec 8
  ingressColorMarking : BitVec 8
  egressColorMarking : BitVec 8
  meterType : BitVec 8
deriving DecidableEq

/-- `struct omci_api_traffic_descriptor`. -/
structure TrafficDescriptor where
  params : TdParams
  meter : Blocks
  shaper : Blocks

/-- `struct gpe_token_bucket_shaper_cfg`. -/
structure ShaperCfg where
  enable : Bool
  mode : BitVec 8
  rates : Rates
deriving DecidableEq

/-- `ONU_GPE_TBS_CIR_DEF`, `ONU_GPE_TBS_PIR_DEF`, `ONU_GPE_TBS_CBS_DEF`, `ONU_GPE_TBS_PBS_DEF`. -/
def tbsDefault : Rates where
  cir := 125000000
  pir := 125000000
  cbs := 16000000
  pbs := 16000000

/-- The descriptors, and the configurations of the shapers. -/
structure Shaping where
  td : Fin 64 → TrafficDescriptor
  cfg : BitVec 8 → ShaperCfg

/-- A request for the descriptor with an index. -/
inductive TdRequest
  | update (tdIdx : Fin 64) (params : TdParams)
  | destroy (tdIdx : Fin 64)
  | shaperAdd (tdIdx : Fin 64) (shaperIdx : BitVec 8)
  | shaperDelete (tdIdx : Fin 64)
  | meterAttach (tdIdx : Fin 64) (meterIdx : BitVec 8)
  | meterDetach (tdIdx : Fin 64) (meterIdx : BitVec 8)
deriving DecidableEq

abbrev ShaperEnv := BitVec 8 → Bool

namespace Shaping

def init : Shaping where
  td _ := ⟨⟨⟨0, 0, 0, 0⟩, 0, 0, 0, 0⟩, fun _ => ⟨0, false⟩, fun _ => ⟨0, false⟩⟩
  cfg _ := ⟨false, 0, tbsDefault⟩

variable (env : ShaperEnv) (s : Shaping)

def setTd (tdIdx : Fin 64) (td : TrafficDescriptor) : Shaping :=
  { s with td := Function.update s.td tdIdx td }

def attached (tdIdx : Fin 64) : Finset (BitVec 8) :=
  (s.td tdIdx).shaper.indices.toFinset

/-- The loops of `omci_api_shaper_update`: all descriptors that point to the shaper. -/
def maxRates (shaperIndex : BitVec 8) : Rates :=
  (List.finRange 64).foldl
    (fun rates k => if shaperIndex ∈ s.attached k then (s.td k).params.rates ⊔ rates else rates)
    ⟨0, 0, 0, 0⟩

/-- The configuration of `omci_api_shaper_update`. The mode is that of the first descriptor. -/
def shaperCfg (shaperIndex : BitVec 8) : ShaperCfg where
  enable := true
  mode := (s.td 0).params.meterType
  rates := s.maxRates shaperIndex

/-- `FIO_GPE_TOKEN_BUCKET_SHAPER_CFG_SET`, for one shaper after the other. -/
def program (cfg : BitVec 8 → ShaperCfg) (shapers : List (BitVec 8)) : Shaping :=
  { s with
    cfg := shapers.foldl
      (fun set shaper => if env shaper then Function.update set shaper (cfg shaper) else set)
      s.cfg }

/-- `omci_api_shaper_clean`. -/
def shaperClean (tdIdx : Fin 64) : Shaping :=
  s.program env (fun _ => ⟨false, 0, tbsDefault⟩) (s.td tdIdx).shaper.indices

/-- `omci_api_traffic_descriptor_update`. -/
def update (tdIdx : Fin 64) (params : TdParams) : Shaping × OmciApiReturn :=
  let s := s.setTd tdIdx { s.td tdIdx with params := params }
  (s.program env s.shaperCfg (s.td tdIdx).shaper.indices, .success)

/-- `omci_api_traffic_descriptor_destroy`. -/
def destroy (tdIdx : Fin 64) : Shaping × OmciApiReturn :=
  let s := s.shaperClean env tdIdx
  (s.setTd tdIdx
    { s.td tdIdx with
      shaper := (s.td tdIdx).shaper.disable
      meter := (s.td tdIdx).meter.disable }, .success)

/-- `omci_api_gem_port_shaper_add`. -/
def shaperAdd (tdIdx : Fin 64) (shaperIdx : BitVec 8) : Shaping × OmciApiReturn :=
  let done := (s.td tdIdx).shaper.attach shaperIdx
  if done.2 = .success then
    let s := s.setTd tdIdx { s.td tdIdx with shaper := done.1 }
    (s.program env s.shaperCfg [shaperIdx], if env shaperIdx then .success else .error)
  else (s, .error)

/-- `omci_api_gemport_shaper_delete`. -/
def shaperDelete (tdIdx : Fin 64) : Shaping × OmciApiReturn :=
  let s := s.shaperClean env tdIdx
  let done := (s.td tdIdx).shaper.shaperDetach
  (s.setTd tdIdx { s.td tdIdx with shaper := done.1 }, done.2)

/-- `omci_api_traffic_descriptor_meter_attach`. -/
def meterAttach (tdIdx : Fin 64) (meterIdx : BitVec 8) : Shaping × OmciApiReturn :=
  let done := (s.td tdIdx).meter.attach meterIdx
  (s.setTd tdIdx { s.td tdIdx with meter := done.1 }, done.2)

/-- `omci_api_traffic_descriptor_meter_detach` of a descriptor. -/
def meterDetach (tdIdx : Fin 64) (meterIdx : BitVec 8) : Shaping × OmciApiReturn :=
  let done := (s.td tdIdx).meter.meterDetach meterIdx
  (s.setTd tdIdx { s.td tdIdx with meter := done.1 }, done.2)

/-- A request and its answer. -/
def request : TdRequest → Shaping × OmciApiReturn
  | .update tdIdx params => s.update env tdIdx params
  | .destroy tdIdx => s.destroy env tdIdx
  | .shaperAdd tdIdx shaperIdx => s.shaperAdd env tdIdx shaperIdx
  | .shaperDelete tdIdx => s.shaperDelete env tdIdx
  | .meterAttach tdIdx meterIdx => s.meterAttach tdIdx meterIdx
  | .meterDetach tdIdx meterIdx => s.meterDetach tdIdx meterIdx

end Shaping

end FalconGpon.Api
