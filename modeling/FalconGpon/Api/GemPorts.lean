/-
# GEM Port Network CTPs

The id mapper keeps for each ME its GEM port id and the index of the hardware's GEM port in one
number. `gemRight_along_iff` says when that pair is the one that the hardware has: an update that
gives a mapped ME another GEM port id writes the hardware's port and leaves the old pair, one whose
call of the device fails removes the pair and leaves the port, and a first update can fail after
it has mapped the ME.
-/

import FalconGpon.Api.MapperPairs

namespace FalconGpon.Api

open FalconGpon.Lib

/-- An entry of the hardware's GEM port table, of `struct gpe_gem_port`. -/
structure GemPort where
  gemPortIndex : BitVec 16
  gemPortId : BitVec 16
deriving DecidableEq

abbrev GemPorts := List GemPort

/-- What else is ordered for a GEM port; it touches neither the GEM port table nor the mapping. -/
inductive GemOrder
  | usAdd (gpix egressQueueIndex : BitVec 16)
  | usException (gpix : BitVec 16)
  | dsIngressColorMarking (gpix : BitVec 16)
  | dsException (gpix : BitVec 16)
  | meterAdd (gpix meId trafficDescriptor : BitVec 16)
  | shaperAdd (gpix priorityQueue trafficDescriptor : BitVec 16)
  | dsPrioSelection (gpix : BitVec 16) (egressQueueOffset : BitVec 8)
  | meterDelete (gpix meId trafficDescriptor : BitVec 16)
  | shaperDelete (gpix trafficDescriptor : BitVec 16)
  | usDelete (gpix : BitVec 16)
  | dsDelete (gpix : BitVec 16)
deriving DecidableEq

/-- What the device and the memory answer to an operation: whether a call succeeds, and the entry
that the device takes for a GEM port id that it does not have. -/
structure GemEnv where
  get : Bool
  add : Bool
  free : BitVec 16
  set : Bool
  delete : Bool
  mem : Bool
  usException : Bool
  dsException : Bool
  /-- `FIO_GPE_EGRESS_QUEUE_CFG_GET`: the field `enable`. -/
  queueCfg : Option Bool
  /-- `FIO_GPE_EGRESS_QUEUE_PATH_GET`: `epn` and the first `leaf`. -/
  queuePath : Option (Nat × BitVec 8)

/-- The attributes of the ME that the update reads. -/
structure GemPortCtp where
  gemPortId : BitVec 16
  direction : BitVec 8
  usPriorityQueuePtr : BitVec 16
  usTrafficDescriptorProfilePtr : BitVec 16
  dsPriorityQueuePtr : BitVec 16
  dsTrafficDescriptorProfilePtr : BitVec 16

structure GemCtx where
  mapper : Mappers
  ports : GemPorts
  orders : List GemOrder

/-! ## The device -/

namespace GemPorts

variable (env : GemEnv) (ports : GemPorts) (gemPortId : BitVec 16)

def indexOf : Option (BitVec 16) :=
  (ports.find? (·.gemPortId = gemPortId)).map GemPort.gemPortIndex

/-- An entry is written. -/
def put (gpix : BitVec 16) : GemPorts :=
  ⟨gpix, gemPortId⟩ :: ports.filter (·.gemPortIndex ≠ gpix)

/-- `FIO_GPE_GEM_PORT_GET`. -/
def gemPortGet : Option (BitVec 16) :=
  if env.get then indexOf ports gemPortId else none

/-- `FIO_GPE_GEM_PORT_ADD`: the entry of a GEM port id that exists is overwritten. -/
def gemPortAdd : Option (BitVec 16) :=
  if env.add then
    match indexOf ports gemPortId with
    | some gpix => some gpix
    | none => if ports.any (·.gemPortIndex = env.free) then none else some env.free
  else none

/-- `FIO_GPE_GEM_PORT_DELETE`. -/
def gemPortDelete : GemPorts :=
  if env.delete then
    match indexOf ports gemPortId with
    | some gpix => ports.filter (·.gemPortIndex ≠ gpix)
    | none => ports
  else ports

end GemPorts

/-- `(gem_port_id << 16) | gpix`. -/
def gemIndex (gemPortId gpix : BitVec 16) : BitVec 32 :=
  (gemPortId.setWidth 32 <<< 16) ||| gpix.setWidth 32

def gemIdOf (index : BitVec 32) : BitVec 16 := index.extractLsb' 16 16

/-- `gpix & 0xFFFF`. -/
def gpixOf (index : BitVec 32) : BitVec 16 := index.setWidth 16

namespace GemCtx

variable (env : GemEnv) (ctx : GemCtx) (meId : BitVec 16) (ctp : GemPortCtp)

/-- The label `err` behind a GEM port: the mapping goes. -/
def unmap : GemCtx :=
  { ctx with mapper := (ctx.mapper.idRemove .gemportctpMeidToIdx (meId.setWidth 32)).1 }

/-- `explicit_map` of a GEM port; `none` behind the label `err`. -/
def mapPort (gpix : BitVec 16) : Option (BitVec 16) × GemCtx :=
  let mapped := ctx.mapper.explicitMap .gemportctpMeidToIdx (meId.setWidth 32)
    (gemIndex ctp.gemPortId gpix) env.mem
  if mapped.2.ret = .success then (some gpix, { ctx with mapper := mapped.1 })
  else (none, ctx.unmap meId)

/-- The beginning of `omci_api_gem_port_network_ctp_update`, up to the index of the GEM port. -/
def definePort : Option (BitVec 16) × GemCtx :=
  match (ctx.mapper.indexGet .gemportctpMeidToIdx (meId.setWidth 32)).key with
  | none =>
      match ctx.ports.gemPortGet env ctp.gemPortId with
      | some gpix => ctx.mapPort env meId ctp gpix
      | none =>
          match ctx.ports.gemPortAdd env ctp.gemPortId with
          | some gpix =>
              { ctx with ports := ctx.ports.put ctp.gemPortId gpix }.mapPort env meId ctp gpix
          | none => (none, ctx)
  | some index =>
      if env.set then
        (some (gpixOf index), { ctx with ports := ctx.ports.put ctp.gemPortId (gpixOf index) })
      else (none, ctx.unmap meId)

/-- The selection of the downstream queue. -/
def prioSelection (gpix : BitVec 16) : List GemOrder :=
  if ctp.dsPriorityQueuePtr ≠ 0x0000 ∧ ctp.dsPriorityQueuePtr ≠ 0xFFFF then
    match env.queueCfg, env.queuePath with
    | some true, some (epn, leaf) =>
        if 64 ≤ epn ∧ epn < 68 then [.dsPrioSelection gpix leaf] else []
    | some _, _ => []
    | none, _ => [.dsPrioSelection gpix 0]
  else [.dsPrioSelection gpix 0]

/-- `direction & GPE_DIRECTION_UPSTREAM`. -/
def isUpstream : Bool := ctp.direction.getLsbD 0

/-- `direction & GPE_DIRECTION_DOWNSTREAM`. -/
def isDownstream : Bool := ctp.direction.getLsbD 1

/-- The end of `omci_api_gem_port_network_ctp_update`: whether it succeeds, and what it orders. -/
def setupPort (gpix : BitVec 16) : Bool × List GemOrder :=
  let usOrders :=
    if isUpstream ctp then
      [.usAdd gpix (ctp.usPriorityQueuePtr &&& 0xff), .usException gpix]
    else []
  if isUpstream ctp && !env.usException then (false, usOrders)
  else
    let dsOrders :=
      if isDownstream ctp then [.dsIngressColorMarking gpix, .dsException gpix] else []
    if isDownstream ctp && !env.dsException then (false, usOrders ++ dsOrders)
    else
      let meter :=
        if isDownstream ctp then [.meterAdd gpix meId ctp.dsTrafficDescriptorProfilePtr] else []
      let shaper :=
        if isUpstream ctp && ctp.usPriorityQueuePtr != 0x0000 &&
            ctp.usPriorityQueuePtr != 0xFFFF then
          [.shaperAdd gpix ctp.usPriorityQueuePtr ctp.usTrafficDescriptorProfilePtr]
        else []
      (true, usOrders ++ dsOrders ++ meter ++ shaper ++ prioSelection env ctp gpix)

/-- `omci_api_gem_port_network_ctp_update`. -/
def omciApiGemPortNetworkCtpUpdate : Bool × GemCtx :=
  match ctx.definePort env meId ctp with
  | (none, ctx) => (false, ctx)
  | (some gpix, ctx) =>
      let setup := setupPort env meId ctp gpix
      (setup.1, { ctx with orders := ctx.orders ++ setup.2 })

/-- `omci_api_gem_port_network_ctp_destroy`. -/
def omciApiGemPortNetworkCtpDestroy (gemPortId tdPtr : BitVec 16) : Bool × GemCtx :=
  match (ctx.mapper.indexGet .gemportctpMeidToIdx (meId.setWidth 32)).key with
  | none => (true, ctx)
  | some index =>
      let gpix := gpixOf index
      let removed := ctx.mapper.idRemove .gemportctpMeidToIdx (meId.setWidth 32)
      (removed.2.ret = .success,
        { mapper := removed.1
          ports := ctx.ports.gemPortDelete env gemPortId
          orders := ctx.orders ++ [.meterDelete gpix meId tdPtr, .shaperDelete gpix tdPtr,
            .usDelete gpix, .dsDelete gpix] })

end GemCtx

inductive GemEvent
  | update (env : GemEnv) (meId : BitVec 16) (ctp : GemPortCtp)
  | destroy (env : GemEnv) (meId gemPortId tdPtr : BitVec 16)

namespace GemCtx

def step (ctx : GemCtx) : GemEvent → Option GemCtx
  | .update env meId ctp => some (ctx.omciApiGemPortNetworkCtpUpdate env meId ctp).2
  | .destroy env meId gemPortId tdPtr =>
      some (ctx.omciApiGemPortNetworkCtpDestroy env meId gemPortId tdPtr).2

def init (maxBridgePort : BitVec 32) : GemCtx := ⟨Mappers.init maxBridgePort, [], []⟩

def Mapped (ctx : GemCtx) (meId : BitVec 16) (index : BitVec 32) : Prop :=
  ctx.mapper.Mapped .gemportctpMeidToIdx (meId.setWidth 32) index

/-- The hardware has the GEM port id of each mapped ME at its index and no other, and no two MEs
have the same GEM port id or the same index. -/
structure PairsRight (ctx : GemCtx) : Prop where
  programmed : ∀ meId index, ctx.Mapped meId index → ∀ gemPortId,
    ⟨gpixOf index, gemPortId⟩ ∈ ctx.ports ↔ gemPortId = gemIdOf index
  unshared : ∀ meId index other otherIndex, ctx.Mapped meId index →
    ctx.Mapped other otherIndex →
    gemIdOf index = gemIdOf otherIndex ∨ gpixOf index = gpixOf otherIndex → meId = other

/-- After a step the pairs are right, and an update that fails leaves an ME as it was: without a
pair, or with its pair and that port of the hardware. -/
structure GemRight (before : GemCtx) (event : GemEvent) (after : GemCtx) : Prop where
  pairs : after.PairsRight
  failed : ∀ env meId ctp, event = .update env meId ctp →
    (before.omciApiGemPortNetworkCtpUpdate env meId ctp).1 = false →
    ∀ index, (after.Mapped meId index ↔ before.Mapped meId index)

/-- An update of a mapped ME is for its GEM port id, and the device takes it; one of another ME, whose
GEM port the device knows or adds and the mapper takes, does not fail then; and the destruction of
an ME deletes no GEM port id of another ME. -/
def GemGuard (ctx : GemCtx) : GemEvent → Prop
  | .update env meId ctp =>
      (∀ index, ctx.Mapped meId index → env.set = true ∧ ctp.gemPortId = gemIdOf index) ∧
        ((∀ index, ¬ctx.Mapped meId index) →
          ∀ gpix, (ctx.ports.gemPortGet env ctp.gemPortId).or
              (ctx.ports.gemPortAdd env ctp.gemPortId) = some gpix →
            (ctx.mapper.explicitMap .gemportctpMeidToIdx (meId.setWidth 32)
              (gemIndex ctp.gemPortId gpix) env.mem).2.ret = .success →
            (isUpstream ctp = true → env.usException = true) ∧
              (isDownstream ctp = true → env.dsException = true))
  | .destroy env meId gemPortId _ =>
      (∃ index, ctx.Mapped meId index) → env.delete = true →
        ∀ other index, ctx.Mapped other index → gemIdOf index = gemPortId → other = meId

/-- What holds while the pairs are right. -/
structure Sound (ctx : GemCtx) : Prop where
  wellFormed : ctx.mapper.WellFormed
  pairs : ctx.PairsRight
  byIndex : ∀ port ∈ ctx.ports, ∀ other ∈ ctx.ports,
    port.gemPortIndex = other.gemPortIndex → port = other
  byId : ∀ port ∈ ctx.ports, ∀ other ∈ ctx.ports, port.gemPortId = other.gemPortId → port = other

/-! ## Indexes and ports -/

theorem gemIndex_eq (gemPortId gpix : BitVec 16) : gemIndex gemPortId gpix = gemPortId ++ gpix := by
  apply BitVec.eq_of_toNat_eq
  have hid := gemPortId.isLt
  have hgpix := gpix.isLt
  rw [BitVec.toNat_append, gemIndex, BitVec.toNat_or, BitVec.toNat_shiftLeft, BitVec.toNat_setWidth,
    BitVec.toNat_setWidth, Nat.mod_eq_of_lt (a := gemPortId.toNat) (by omega),
    Nat.mod_eq_of_lt (a := gpix.toNat) (by omega), Nat.shiftLeft_eq, Nat.mod_eq_of_lt (by omega)]

@[simp]
theorem gemIdOf_gemIndex (gemPortId gpix : BitVec 16) :
    gemIdOf (gemIndex gemPortId gpix) = gemPortId := by
  rw [gemIndex_eq]
  exact BitVec.extractLsb'_append_eq_left

@[simp]
theorem gpixOf_gemIndex (gemPortId gpix : BitVec 16) : gpixOf (gemIndex gemPortId gpix) = gpix := by
  rw [gemIndex_eq]
  exact BitVec.setWidth_append_eq_right

theorem eq_gemIndex (index : BitVec 32) : index = gemIndex (gemIdOf index) (gpixOf index) := by
  rw [gemIndex_eq, gemIdOf, gpixOf]
  apply BitVec.eq_of_getLsbD_eq
  intro i hi
  rw [BitVec.getLsbD_append, BitVec.getLsbD_setWidth, BitVec.getLsbD_extractLsb']
  grind

section Ports

variable {env : GemEnv} {ports : GemPorts} {gemPortId gpix : BitVec 16} {port : GemPort}

theorem mem_put : port ∈ ports.put gemPortId gpix ↔
    port = ⟨gpix, gemPortId⟩ ∨ port ∈ ports ∧ port.gemPortIndex ≠ gpix := by
  simp [GemPorts.put]

theorem mem_of_indexOf (hfind : ports.indexOf gemPortId = some gpix) :
    (⟨gpix, gemPortId⟩ : GemPort) ∈ ports := by
  have ⟨port, hport, hgpix⟩ := Option.map_eq_some_iff.mp hfind
  have hid : port.gemPortId = gemPortId := by simpa using List.find?_some hport
  have hmem := List.mem_of_find?_eq_some hport
  rw [← hgpix, ← hid]
  exact hmem

theorem not_mem_of_indexOf (hfind : ports.indexOf gemPortId = none) :
    ∀ port ∈ ports, port.gemPortId ≠ gemPortId := by
  have hnone := List.find?_eq_none.mp (Option.map_eq_none_iff.mp hfind)
  intro port hport
  simpa using hnone port hport

/-- The entry that the device takes has the GEM port id, or is free and the id is new. -/
theorem gemPortAdd_cases (hadd : ports.gemPortAdd env gemPortId = some gpix) :
    (⟨gpix, gemPortId⟩ : GemPort) ∈ ports ∨
      (∀ port ∈ ports, port.gemPortIndex ≠ gpix) ∧ ∀ port ∈ ports, port.gemPortId ≠ gemPortId := by
  rw [GemPorts.gemPortAdd] at hadd
  split at hadd
  · cases hfind : ports.indexOf gemPortId with
    | some found =>
        rw [hfind] at hadd
        cases hadd
        exact .inl (mem_of_indexOf hfind)
    | none =>
        rw [hfind] at hadd
        dsimp only at hadd
        split at hadd
        · cases hadd
        · rename_i hfree
          cases hadd
          right
          constructor
          · intro port hport hsame
            exact hfree (List.any_eq_true.mpr ⟨port, hport, decide_eq_true hsame⟩)
          · exact not_mem_of_indexOf hfind
  · cases hadd

end Ports

/-! ## The operations -/

section Operations

variable {env : GemEnv} {ctx : GemCtx} {meId : BitVec 16} {ctp : GemPortCtp} {index : BitVec 32}
  {gemPortId gpix : BitVec 16}

theorem Sound.port_mem (h : ctx.Sound) (hmapped : ctx.Mapped meId index) :
    (⟨gpixOf index, gemIdOf index⟩ : GemPort) ∈ ctx.ports :=
  (h.pairs.programmed meId index hmapped _).mpr rfl

/-- An entry comes to the table, or is there. -/
theorem Sound.put (h : ctx.Sound) (hport : (⟨gpix, gemPortId⟩ : GemPort) ∈ ctx.ports ∨
    (∀ port ∈ ctx.ports, port.gemPortIndex ≠ gpix) ∧
      ∀ port ∈ ctx.ports, port.gemPortId ≠ gemPortId) :
    Sound { ctx with ports := ctx.ports.put gemPortId gpix } := by
  have hmem : ∀ port, port ∈ ctx.ports.put gemPortId gpix ↔
      port = ⟨gpix, gemPortId⟩ ∨ port ∈ ctx.ports := by
    intro port
    rw [mem_put]
    constructor
    · exact Or.imp_right And.left
    · rintro (hnew | hold)
      · exact .inl hnew
      · by_cases hsame : port.gemPortIndex = gpix
        · cases hport with
          | inl hin => exact .inl (h.byIndex port hold _ hin hsame)
          | inr hfree => exact absurd hsame (hfree.1 port hold)
        · exact .inr ⟨hold, hsame⟩
  have hold : ∀ port ∈ ctx.ports, port.gemPortIndex = gpix ∨ port.gemPortId = gemPortId →
      port = ⟨gpix, gemPortId⟩ := by
    rintro port hin (hsame | hsame)
    · cases hport with
      | inl hthere => exact h.byIndex port hin _ hthere hsame
      | inr hfree => exact absurd hsame (hfree.1 port hin)
    · cases hport with
      | inl hthere => exact h.byId port hin _ hthere hsame
      | inr hfree => exact absurd hsame (hfree.2 port hin)
  refine ⟨h.wellFormed, ⟨fun meId index hmapped id => ?_, h.pairs.unshared⟩, ?_, ?_⟩
  · rw [hmem]
    have hthere := h.port_mem hmapped
    constructor
    · rintro (hnew | hin)
      · have ⟨hgpix, hid⟩ := GemPort.mk.inj hnew
        have hsame := hold _ hthere (.inl hgpix)
        exact hid.trans (GemPort.mk.inj hsame).2.symm
      · exact (h.pairs.programmed meId index hmapped id).mp hin
    · exact fun hid => .inr (hid ▸ hthere)
  · intro port hin other hother hsame
    cases (hmem port).mp hin with
    | inl hnew =>
        cases (hmem other).mp hother with
        | inl hsecond => exact hnew.trans hsecond.symm
        | inr hthere => exact hnew.trans (hold other hthere (.inl (hsame ▸ hnew ▸ rfl))).symm
    | inr hfirst =>
        cases (hmem other).mp hother with
        | inl hnew => exact (hold port hfirst (.inl (hsame.trans (hnew ▸ rfl)))).trans hnew.symm
        | inr hthere => exact h.byIndex port hfirst other hthere hsame
  · intro port hin other hother hsame
    cases (hmem port).mp hin with
    | inl hnew =>
        cases (hmem other).mp hother with
        | inl hsecond => exact hnew.trans hsecond.symm
        | inr hthere => exact hnew.trans (hold other hthere (.inr (hsame ▸ hnew ▸ rfl))).symm
    | inr hfirst =>
        cases (hmem other).mp hother with
        | inl hnew => exact (hold port hfirst (.inr (hsame.trans (hnew ▸ rfl)))).trans hnew.symm
        | inr hthere => exact h.byId port hfirst other hthere hsame

variable (env ctp) in
/-- The pair of a port of the table is mapped, or the mapping stays. -/
theorem Sound.mapPort (h : ctx.Sound) (hnew : ∀ index, ¬ctx.Mapped meId index)
    (hport : (⟨gpix, ctp.gemPortId⟩ : GemPort) ∈ ctx.ports) :
    (ctx.mapPort env meId ctp gpix).2.Sound ∧
      (((ctx.mapPort env meId ctp gpix).1 = none ∧ ∀ other index,
        (ctx.mapPort env meId ctp gpix).2.Mapped other index ↔ ctx.Mapped other index) ∨
      ((ctx.mapPort env meId ctp gpix).1 = some gpix ∧
        (ctx.mapPort env meId ctp gpix).2.Mapped meId (gemIndex ctp.gemPortId gpix))) := by
  unfold GemCtx.mapPort
  dsimp only
  cases Mappers.mapped_explicitMap h.wellFormed MapperIdType.gemportctpMeidToIdx
      (meId.setWidth 32) (gemIndex ctp.gemPortId gpix) env.mem with
  | inl hrefused =>
      have hremove : ctx.unmap meId = ctx := by
        cases Mappers.mapped_idRemove h.wellFormed MapperIdType.gemportctpMeidToIdx
            (meId.setWidth 32) with
        | inl hnone =>
            rw [unmap, hnone.2.1]
        | inr hsome =>
            have ⟨index, hmapped⟩ := hsome.2.2.1
            exact absurd hmapped (hnew index)
      rw [if_neg hrefused.1, hremove]
      exact ⟨h, .inl ⟨rfl, fun _ _ => Iff.rfl⟩⟩
  | inr hadded =>
      have ⟨hret, hwell, hfresh, hpairs⟩ := hadded
      rw [if_pos hret]
      have hmapped : ∀ other otherIndex,
          (GemCtx.mk (ctx.mapper.explicitMap MapperIdType.gemportctpMeidToIdx (meId.setWidth 32)
            (gemIndex ctp.gemPortId gpix) env.mem).1 ctx.ports ctx.orders).Mapped other otherIndex ↔
          other = meId ∧ otherIndex = gemIndex ctp.gemPortId gpix ∨
            ctx.Mapped other otherIndex := by
        intro other otherIndex
        rw [Mapped, hpairs, Mapped]
        constructor
        · exact Or.imp_left fun hsame => ⟨meId_inj hsame.2.1, hsame.2.2⟩
        · rintro (hsame | hold)
          · exact .inl ⟨rfl, congrArg (BitVec.setWidth 32) hsame.1, hsame.2⟩
          · exact .inr hold
      -- another ME has neither the GEM port id nor the index
      have hother : ∀ other otherIndex, ctx.Mapped other otherIndex →
          gemIdOf otherIndex = ctp.gemPortId ∨ gpixOf otherIndex = gpix → False := by
        intro other otherIndex hold hshared
        have hthere := h.port_mem hold
        have hsame : (⟨gpixOf otherIndex, gemIdOf otherIndex⟩ : GemPort) = ⟨gpix, ctp.gemPortId⟩ := by
          cases hshared with
          | inl hid => exact h.byId _ hthere _ hport hid
          | inr hgpix => exact h.byIndex _ hthere _ hport hgpix
        have ⟨hgpix, hid⟩ := GemPort.mk.inj hsame
        have hindex := eq_gemIndex otherIndex
        rw [hgpix, hid] at hindex
        exact (hfresh _ _ hold).2 hindex
      refine ⟨⟨hwell, ⟨fun other otherIndex hin id => ?_, ?_⟩, h.byIndex, h.byId⟩,
        .inr ⟨rfl, (hmapped _ _).mpr (.inl ⟨rfl, rfl⟩)⟩⟩
      · cases (hmapped other otherIndex).mp hin with
        | inl hsame =>
            rw [hsame.2, gpixOf_gemIndex, gemIdOf_gemIndex]
            constructor
            · exact fun hthere => (GemPort.mk.inj (h.byIndex _ hthere _ hport rfl)).2
            · exact fun hid => hid ▸ hport
        | inr hold => exact h.pairs.programmed other otherIndex hold id
      · intro first firstIndex second secondIndex hfirst hsecond hshared
        cases (hmapped first firstIndex).mp hfirst with
        | inl hone =>
            cases (hmapped second secondIndex).mp hsecond with
            | inl htwo => exact hone.1.trans htwo.1.symm
            | inr hold =>
                rw [hone.2, gemIdOf_gemIndex, gpixOf_gemIndex] at hshared
                exact (hother _ _ hold (hshared.imp Eq.symm Eq.symm)).elim
        | inr hone =>
            cases (hmapped second secondIndex).mp hsecond with
            | inl htwo =>
                rw [htwo.2, gemIdOf_gemIndex, gpixOf_gemIndex] at hshared
                exact (hother _ _ hone hshared).elim
            | inr hold => exact h.pairs.unshared _ _ _ _ hone hold hshared

theorem indexGet_key (h : ctx.Sound) :
    (∃ index, (ctx.mapper.indexGet .gemportctpMeidToIdx (meId.setWidth 32)).key = some index ∧
        ctx.Mapped meId index) ∨
      (ctx.mapper.indexGet .gemportctpMeidToIdx (meId.setWidth 32)).key = none ∧
        ∀ index, ¬ctx.Mapped meId index := by
  cases h.wellFormed.indexGet_cases MapperIdType.gemportctpMeidToIdx (meId.setWidth 32) with
  | inl hfound =>
      have ⟨index, hget, hmapped⟩ := hfound
      exact .inl ⟨index, by rw [hget]; rfl, hmapped⟩
  | inr habsent =>
      have ⟨⟨ret, _, hget⟩, hnone⟩ := habsent
      exact .inr ⟨by rw [hget]; rfl, hnone⟩

/-- An ME without a mapping gets the port that the device knows or adds, if the mapper takes it. -/
theorem definePort_eq_some_iff {gpix : BitVec 16}
    (hkey : (ctx.mapper.indexGet .gemportctpMeidToIdx (meId.setWidth 32)).key = none) :
    (ctx.definePort env meId ctp).1 = some gpix ↔
      (ctx.ports.gemPortGet env ctp.gemPortId).or
          (ctx.ports.gemPortAdd env ctp.gemPortId) = some gpix ∧
        (ctx.mapper.explicitMap .gemportctpMeidToIdx (meId.setWidth 32)
          (gemIndex ctp.gemPortId gpix) env.mem).2.ret = .success := by
  have hmap : ∀ {c : GemCtx} {port : BitVec 16}, (c.mapPort env meId ctp port).1 = some gpix ↔
      port = gpix ∧ (c.mapper.explicitMap .gemportctpMeidToIdx (meId.setWidth 32)
        (gemIndex ctp.gemPortId gpix) env.mem).2.ret = .success := by
    intro c port
    rw [mapPort]
    split <;> rename_i hret
    · exact ⟨fun hport => Option.some.inj hport ▸ ⟨rfl, hret⟩, fun h => congrArg some h.1⟩
    · exact iff_of_false nofun fun h => hret (h.1 ▸ h.2)
  rw [GemCtx.definePort, hkey]
  dsimp only
  cases ctx.ports.gemPortGet env ctp.gemPortId with
  | some port => simpa using hmap
  | none =>
      cases ctx.ports.gemPortAdd env ctp.gemPortId with
      | some port => simpa using hmap
      | none => simp

variable (env ctp) in
/-- The first update of an ME. -/
theorem Sound.definePort (h : ctx.Sound) (hnew : ∀ index, ¬ctx.Mapped meId index)
    (hkey : (ctx.mapper.indexGet .gemportctpMeidToIdx (meId.setWidth 32)).key = none) :
    (ctx.definePort env meId ctp).2.Sound ∧
      (((ctx.definePort env meId ctp).1 = none ∧ ∀ other index,
        (ctx.definePort env meId ctp).2.Mapped other index ↔ ctx.Mapped other index) ∨
      ∃ gpix, (ctx.definePort env meId ctp).1 = some gpix ∧
        (ctx.definePort env meId ctp).2.Mapped meId (gemIndex ctp.gemPortId gpix)) := by
  rw [GemCtx.definePort, hkey]
  dsimp only
  cases hget : ctx.ports.gemPortGet env ctp.gemPortId with
  | some gpix =>
      have hport : (⟨gpix, ctp.gemPortId⟩ : GemPort) ∈ ctx.ports := by
        rw [GemPorts.gemPortGet] at hget
        split at hget
        · exact mem_of_indexOf hget
        · cases hget
      have ⟨hsound, hcases⟩ := h.mapPort env ctp hnew hport
      exact ⟨hsound, hcases.imp_right fun hmapped => ⟨gpix, hmapped⟩⟩
  | none =>
      cases hadd : ctx.ports.gemPortAdd env ctp.gemPortId with
      | none => exact ⟨h, .inl ⟨rfl, fun _ _ => Iff.rfl⟩⟩
      | some gpix =>
          have hput := h.put (gemPortAdd_cases hadd)
          have ⟨hsound, hcases⟩ := hput.mapPort env ctp hnew (mem_put.mpr (.inl rfl))
          exact ⟨hsound, hcases.imp_right fun hmapped => ⟨gpix, hmapped⟩⟩

theorem setupPort_iff : (setupPort env meId ctp gpix).1 = true ↔
    (isUpstream ctp = true → env.usException = true) ∧
      (isDownstream ctp = true → env.dsException = true) := by
  unfold setupPort
  dsimp only
  cases isUpstream ctp <;> cases isDownstream ctp <;> cases env.usException <;>
    cases env.dsException <;> simp

/-- A step is right exactly under the guard. -/
def Judged (ctx : GemCtx) (event : GemEvent) (after : GemCtx) : Prop :=
  (GemRight ctx event after ↔ GemGuard ctx event) ∧ (GemGuard ctx event → after.Sound)

theorem Judged.of_right {event : GemEvent} {after : GemCtx} (hguard : GemGuard ctx event)
    (hsound : after.Sound) (hfailed : ∀ env meId ctp, event = .update env meId ctp →
      (ctx.omciApiGemPortNetworkCtpUpdate env meId ctp).1 = false →
      ∀ index, (after.Mapped meId index ↔ ctx.Mapped meId index)) : Judged ctx event after :=
  ⟨iff_of_true ⟨hsound.pairs, hfailed⟩ hguard, fun _ => hsound⟩

theorem Judged.of_destroy {after : GemCtx} {tdPtr : BitVec 16}
    (hguard : GemGuard ctx (.destroy env meId gemPortId tdPtr)) (hsound : after.Sound) :
    Judged ctx (.destroy env meId gemPortId tdPtr) after :=
  Judged.of_right hguard hsound fun _ _ _ hevent => nomatch hevent

theorem Judged.of_not {event : GemEvent} {after : GemCtx} (hright : ¬GemRight ctx event after)
    (hguard : ¬GemGuard ctx event) : Judged ctx event after :=
  ⟨iff_of_false hright hguard, fun hmet => absurd hmet hguard⟩

theorem judged_update (h : ctx.Sound) : Judged ctx (.update env meId ctp)
    (ctx.omciApiGemPortNetworkCtpUpdate env meId ctp).2 := by
  have horders : ∀ {c : GemCtx} {orders : List GemOrder}, c.Sound → Sound { c with orders := orders } :=
    fun hc => ⟨hc.wellFormed, ⟨hc.pairs.programmed, hc.pairs.unshared⟩, hc.byIndex, hc.byId⟩
  cases @indexGet_key ctx meId h with
  | inr habsent =>
      have ⟨hkey, hnew⟩ := habsent
      have ⟨hsound, hcases⟩ := h.definePort env ctp hnew hkey
      generalize hdefine : ctx.definePort env meId ctp = defined at hsound hcases
      obtain ⟨port, left⟩ := defined
      cases hcases with
      | inl hnone =>
          have hport : port = none := hnone.1
          subst hport
          have hresult : ctx.omciApiGemPortNetworkCtpUpdate env meId ctp = (false, left) := by
            rw [omciApiGemPortNetworkCtpUpdate, hdefine]
          rw [hresult]
          apply Judged.of_right _ hsound
          · intro env' meId' ctp' hevent _ index
            cases hevent
            exact hnone.2 meId index
          · refine ⟨fun index hmapped => absurd hmapped (hnew index), fun _ gpix hport hret => ?_⟩
            have hgpix := (definePort_eq_some_iff hkey).mpr ⟨hport, hret⟩
            rw [hdefine] at hgpix
            cases hgpix
      | inr hsome =>
          have ⟨gpix, hgpix, hmapped⟩ := hsome
          have hport : port = some gpix := hgpix
          subst hport
          have hresult : ctx.omciApiGemPortNetworkCtpUpdate env meId ctp =
              ((setupPort env meId ctp gpix).1,
                { left with orders := left.orders ++ (setupPort env meId ctp gpix).2 }) := by
            rw [omciApiGemPortNetworkCtpUpdate, hdefine]
          have hguard : GemGuard ctx (.update env meId ctp) ↔
              (setupPort env meId ctp gpix).1 = true := by
            rw [setupPort_iff]
            constructor
            · have hdefined := (definePort_eq_some_iff hkey).mp (congrArg Prod.fst hdefine)
              exact fun hmet => hmet.2 hnew gpix hdefined.1 hdefined.2
            · intro hset
              exact ⟨fun index hold => absurd hold (hnew index), fun _ _ _ _ => hset⟩
          cases hsetup : (setupPort env meId ctp gpix).1 with
          | true =>
              rw [hresult]
              apply Judged.of_right (hguard.mpr hsetup) (horders hsound)
              intro env' meId' ctp' hevent hfalse
              cases hevent
              rw [hresult, hsetup] at hfalse
              cases hfalse
          | false =>
              apply Judged.of_not
              · intro hright
                have hfalse : (ctx.omciApiGemPortNetworkCtpUpdate env meId ctp).1 = false := by
                  rw [hresult]
                  exact hsetup
                have hiff := hright.failed env meId ctp rfl hfalse (gemIndex ctp.gemPortId gpix)
                rw [hresult] at hiff
                exact hnew _ (hiff.mp hmapped)
              · rw [hguard, hsetup]
                exact Bool.false_ne_true
  | inl hfound =>
      have ⟨index, hkey, hmapped⟩ := hfound
      have hunique : ∀ other, ctx.Mapped meId other → other = index :=
        fun other hother => Mappers.Mapped.index_unique h.wellFormed hother hmapped
      by_cases hset : env.set = true
      · have hresult : ctx.omciApiGemPortNetworkCtpUpdate env meId ctp =
            ((setupPort env meId ctp (gpixOf index)).1,
              { ctx with
                ports := ctx.ports.put ctp.gemPortId (gpixOf index)
                orders := ctx.orders ++ (setupPort env meId ctp (gpixOf index)).2 }) := by
          rw [omciApiGemPortNetworkCtpUpdate, GemCtx.definePort, hkey]
          dsimp only
          rw [if_pos hset]
        by_cases hid : ctp.gemPortId = gemIdOf index
        · have hput : Sound { ctx with ports := ctx.ports.put ctp.gemPortId (gpixOf index) } :=
            h.put (.inl (hid ▸ h.port_mem hmapped))
          rw [hresult]
          apply Judged.of_right _ (horders hput)
          · intro env' meId' ctp' _ _ index
            exact Iff.rfl
          · refine ⟨fun other hother => ⟨hset, ?_⟩, fun hnone => absurd hmapped (hnone index)⟩
            rw [hunique other hother]
            exact hid
        · apply Judged.of_not
          · intro hright
            rw [hresult] at hright
            exact hid ((hright.pairs.programmed meId index hmapped ctp.gemPortId).mp
              (mem_put.mpr (.inl rfl)))
          · exact fun hguard => hid (hguard.1 index hmapped).2
      · have hresult : ctx.omciApiGemPortNetworkCtpUpdate env meId ctp = (false, ctx.unmap meId) := by
          rw [omciApiGemPortNetworkCtpUpdate, GemCtx.definePort, hkey]
          dsimp only
          rw [if_neg hset]
        apply Judged.of_not
        · intro hright
          have hiff := hright.failed env meId ctp rfl (by rw [hresult]) index
          rw [hresult] at hiff
          have hleft := hiff.mpr hmapped
          cases Mappers.mapped_idRemove h.wellFormed MapperIdType.gemportctpMeidToIdx
              (meId.setWidth 32) with
          | inl hnone => exact hnone.2.2 index hmapped
          | inr hsome => exact ((hsome.2.2.2 _ _ _).mp hleft).2 ⟨rfl, rfl⟩
        · exact fun hguard => hset (hguard.1 index hmapped).1

/-- The state after the destruction of a mapped ME: its pair is gone, and its port perhaps. -/
theorem judged_destroyed (h : ctx.Sound) (hmapped : ctx.Mapped meId index) {tdPtr : BitVec 16}
    {after : GemCtx} (hwell : after.mapper.WellFormed)
    (hleft : ∀ other otherIndex, after.Mapped other otherIndex ↔
      ctx.Mapped other otherIndex ∧ other ≠ meId)
    (hports : after.ports = ctx.ports.gemPortDelete env gemPortId) :
    Judged ctx (.destroy env meId gemPortId tdPtr) after := by
  have hunshared : ∀ first firstIndex second secondIndex, after.Mapped first firstIndex →
      after.Mapped second secondIndex →
      gemIdOf firstIndex = gemIdOf secondIndex ∨ gpixOf firstIndex = gpixOf secondIndex →
      first = second := fun _ _ _ _ hfirst hsecond =>
    h.pairs.unshared _ _ _ _ ((hleft _ _).mp hfirst).1 ((hleft _ _).mp hsecond).1
  have hkept : after.ports = ctx.ports → after.Sound := fun hsame =>
    ⟨hwell, ⟨fun other otherIndex hother => hsame ▸
        h.pairs.programmed other otherIndex ((hleft _ _).mp hother).1, hunshared⟩,
      hsame ▸ h.byIndex, hsame ▸ h.byId⟩
  rw [GemPorts.gemPortDelete] at hports
  by_cases hdelete : env.delete = true
  · rw [if_pos hdelete] at hports
    cases hindex : ctx.ports.indexOf gemPortId with
    | none =>
        rw [hindex] at hports
        apply Judged.of_destroy _ (hkept hports)
        intro _ _ other otherIndex hother hid
        exact absurd hid (not_mem_of_indexOf hindex _ (h.port_mem hother))
    | some gpix =>
        rw [hindex] at hports
        have hgone : ∀ port, port ∈ after.ports ↔ port ∈ ctx.ports ∧ port.gemPortIndex ≠ gpix := by
          intro port
          rw [hports]
          simp
        have hport := mem_of_indexOf hindex
        by_cases hguard : GemGuard ctx (.destroy env meId gemPortId tdPtr)
        · refine Judged.of_destroy hguard ⟨hwell, ⟨fun other otherIndex hother id => ?_,
            hunshared⟩, ?_, ?_⟩
          · have ⟨hold, hne⟩ := (hleft _ _).mp hother
            have hapart : gpixOf otherIndex ≠ gpix := by
              intro hsame
              have hthere := h.byIndex _ (h.port_mem hold) _ hport hsame
              exact hne (hguard ⟨index, hmapped⟩ hdelete other otherIndex hold
                (GemPort.mk.inj hthere).2)
            rw [hgone, and_iff_left hapart]
            exact h.pairs.programmed other otherIndex hold id
          · exact fun port hin other hother =>
              h.byIndex port ((hgone _).mp hin).1 other ((hgone _).mp hother).1
          · exact fun port hin other hother =>
              h.byId port ((hgone _).mp hin).1 other ((hgone _).mp hother).1
        · refine Judged.of_not (fun hright => hguard ?_) hguard
          intro _ _ other otherIndex hother hid
          by_contra hne
          have hthere := (hright.pairs.programmed other otherIndex
            ((hleft _ _).mpr ⟨hother, hne⟩) (gemIdOf otherIndex)).mpr rfl
          have hsame := h.byId _ (h.port_mem hother) _ hport hid
          exact ((hgone _).mp hthere).2 (GemPort.mk.inj hsame).1
  · rw [if_neg hdelete] at hports
    exact Judged.of_destroy (fun _ hyes => absurd hyes hdelete) (hkept hports)

theorem judged_destroy (h : ctx.Sound) (tdPtr : BitVec 16) :
    Judged ctx (.destroy env meId gemPortId tdPtr)
      (ctx.omciApiGemPortNetworkCtpDestroy env meId gemPortId tdPtr).2 := by
  cases @indexGet_key ctx meId h with
  | inr habsent =>
      have ⟨hkey, hnew⟩ := habsent
      rw [omciApiGemPortNetworkCtpDestroy, hkey]
      apply Judged.of_destroy _ h
      rintro ⟨index, hmapped⟩
      exact absurd hmapped (hnew index)
  | inl hfound =>
      have ⟨index, hkey, hmapped⟩ := hfound
      have hremoved := (Mappers.mapped_idRemove h.wellFormed MapperIdType.gemportctpMeidToIdx
        (meId.setWidth 32)).resolve_left fun hnone => hnone.2.2 index hmapped
      have ⟨_, hwell, _, hpairs⟩ := hremoved
      rw [omciApiGemPortNetworkCtpDestroy, hkey]
      apply judged_destroyed h hmapped hwell _ rfl
      intro other otherIndex
      refine (hpairs _ _ _).trans (and_congr_right fun _ => not_congr ?_)
      exact ⟨fun hsame => meId_inj hsame.2, fun hsame => ⟨rfl, congrArg _ hsame⟩⟩

end Operations

theorem sound_init (maxBridgePort : BitVec 32) : (init maxBridgePort).Sound where
  wellFormed := Mappers.wellFormed_init maxBridgePort
  pairs :=
    ⟨fun _ _ hmapped => absurd hmapped (Mappers.not_mapped_init maxBridgePort),
      fun _ _ _ _ hmapped => absurd hmapped (Mappers.not_mapped_init maxBridgePort)⟩
  byIndex _ hport := absurd hport List.not_mem_nil
  byId _ hport := absurd hport List.not_mem_nil

/-- In every run each step leaves the pairs right, and nothing where it fails, exactly if every step
meets the guard. -/
theorem gemRight_along_iff (maxBridgePort : BitVec 32) (events : List GemEvent) :
    Along step GemRight (init maxBridgePort) events ↔
      Along step (fun before event _ => GemGuard before event) (init maxBridgePort) events := by
  apply along_iff_guard _ (sound_init maxBridgePort)
  intro before event after hbefore hstep
  cases event with
  | update env meId ctp =>
      rw [← Option.some.inj hstep]
      exact judged_update hbefore
  | destroy env meId gemPortId tdPtr =>
      rw [← Option.some.inj hstep]
      exact judged_destroy hbefore tdPtr

/-- A device that takes everything. -/
def gemEnv : GemEnv := ⟨true, true, 5, true, true, true, true, true, none, none⟩

/-- The GEM port id of a mapped ME is changed; and an update of it fails. -/
theorem gemRight_not :
    ¬Along step GemRight (init 8)
        [.update gemEnv 1 ⟨100, 3, 0, 0, 0, 0⟩, .update gemEnv 1 ⟨101, 3, 0, 0, 0, 0⟩] ∧
      ¬Along step GemRight (init 8) [.update gemEnv 1 ⟨100, 3, 0, 0, 0, 0⟩,
          .update { gemEnv with set := false } 1 ⟨100, 3, 0, 0, 0, 0⟩] := by
  constructor
  · intro hrun
    have hmapped := hrun.2.1.pairs.programmed 1 (gemIndex 100 5) ⟨_, rfl, List.mem_singleton.mpr rfl⟩
    exact absurd ((hmapped 101).mp (List.mem_singleton.mpr rfl)) (by decide)
  · intro hrun
    have hiff := hrun.2.1.failed _ _ _ rfl rfl (gemIndex 100 5)
    have ⟨m, hget, hmem⟩ := hiff.mpr ⟨_, rfl, List.mem_singleton.mpr rfl⟩
    cases hget
    exact List.not_mem_nil hmem

end GemCtx

end FalconGpon.Api
