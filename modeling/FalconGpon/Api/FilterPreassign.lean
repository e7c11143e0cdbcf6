/-
# The filter preassign table of a bridge port

For each of ten protocols a bridge port forwards or filters frames. The operations are flags in
an entry of the exception table of the GPE, at the offset of the exception that a protocol is
detected as. The id mapper keeps which entry a port has: there is one mapper for ports at the ANI
side and one for ports at the UNI side, for the same table.

The calls of the device are recorded in the order in which an operation makes them. An operation
fails where it returns an error; notifications of errors are left out.
-/

import FalconGpon.Api.MapperPairs
import FalconGpon.Lib.Program
import Mathlib.Logic.Function.Basic

namespace FalconGpon.Api

open FalconGpon.Lib

/-- `struct gpe_exception_table`. -/
structure ExceptionRow where
  egressExceptionFlagMask : BitVec 32
  ingressExceptionFlagMask : BitVec 32
deriving DecidableEq

/-- `struct gpe_redirection_table`. -/
structure RedirectionRow where
  snoopingEnable : Bool
  redirectionQueueIndex : BitVec 8
deriving DecidableEq

/-- The calls of the device, with what they are given. -/
inductive PreassignIoctl
  | bridgePortGet (index : BitVec 8)
  | exceptionGet (index : BitVec 32)
  | exceptionSet (index : BitVec 32) (row : ExceptionRow)
  | redirectionGet (index : BitVec 32)
  | redirectionSet (index : BitVec 32) (row : RedirectionRow)
deriving DecidableEq

/-- What the device and the memory answer to an operation. -/
structure PreassignEnv where
  /-- A call of the device succeeds. -/
  accepts : PreassignIoctl → Bool
  /-- The field of the bridge port table. -/
  tpType : BitVec 8 → BitVec 2
  mem : Bool

/-- The mapper, the tables of the GPE and the calls of the device that were made. -/
structure PreassignCtx where
  mapper : Mappers
  exception : BitVec 32 → ExceptionRow
  redirection : BitVec 32 → RedirectionRow
  calls : List PreassignIoctl

abbrev PreassignProgram := Program PreassignCtx

def PreassignCtx.record (ctx : PreassignCtx) (call : PreassignIoctl) : PreassignCtx :=
  { ctx with calls := ctx.calls ++ [call] }

/-- `OPERATION_FORWARD`. -/
def operationForward : BitVec 8 := 0

/-- `OPERATION_FILTER`. -/
def operationFilter : BitVec 8 := 1

/-- The attributes of the filter preassign table. -/
structure PreassignFilters where
  ipv4MulticastFiltering : BitVec 8
  ipv6MulticastFiltering : BitVec 8
  ipv4BroadcastFiltering : BitVec 8
  rarpFiltering : BitVec 8
  ipxFiltering : BitVec 8
  netBeuiFiltering : BitVec 8
  appleTalkFiltering : BitVec 8
  bridgeManagmentInfFiltering : BitVec 8
  arpFiltering : BitVec 8
  pppoeFiltering : BitVec 8
deriving DecidableEq

/-- `ONU_GPE_EXCEPTION_OFFSET_ARP`. -/
def onuGpeExceptionOffsetArp : Nat := 16

/-- `filtering_table`, with the offsets of `filtering_mask`. -/
def PreassignFilters.table (filters : PreassignFilters) : List (BitVec 8 × Nat) :=
  [(filters.ipv4MulticastFiltering, 11),
    (filters.ipv6MulticastFiltering, 12),
    (filters.ipv4BroadcastFiltering, 10),
    (filters.rarpFiltering, 17),
    (filters.ipxFiltering, 15),
    (filters.netBeuiFiltering, 18),
    (filters.appleTalkFiltering, 14),
    (filters.bridgeManagmentInfFiltering, 19),
    (filters.arpFiltering, onuGpeExceptionOffsetArp),
    (filters.pppoeFiltering, 26)]

def preassignOffsets : List Nat :=
  [11, 12, 10, 17, 15, 18, 14, 19, onuGpeExceptionOffsetArp, 26]

namespace FilterPreassign

/-- `dev_ctl`. -/
def devCtl (env : PreassignEnv) (call : PreassignIoctl) : PreassignProgram Unit :=
  fun ctx => (if env.accepts call then some () else none, ctx.record call)

/-- `index_get`. -/
def indexGet (idType : MapperIdType) (meId : BitVec 16) : PreassignProgram (BitVec 32) :=
  fun ctx =>
    let found := ctx.mapper.indexGet idType (meId.setWidth 32)
    (if found.ret = .success then found.key else none, ctx)

/-- `id_map`. -/
def idMap (env : PreassignEnv) (idType : MapperIdType) (meId : BitVec 16) :
    PreassignProgram (BitVec 32) := fun ctx =>
  let mapped := ctx.mapper.idMap idType (meId.setWidth 32) env.mem
  (if mapped.2.ret = .success then mapped.2.key else none, { ctx with mapper := mapped.1 })

/-- `id_remove`. -/
def idRemove (idType : MapperIdType) (meId : BitVec 16) : PreassignProgram Unit := fun ctx =>
  let removed := ctx.mapper.idRemove idType (meId.setWidth 32)
  (if removed.2.ret = .success then some () else none, { ctx with mapper := removed.1 })

/-- `snooping_set`. -/
def snoopingSet (env : PreassignEnv) (index : BitVec 32) (snooping : Bool) :
    PreassignProgram Unit := do
  devCtl env (.redirectionGet index)
  let ctx ← Program.read
  let row : RedirectionRow := { ctx.redirection index with snoopingEnable := snooping }
  devCtl env (.redirectionSet index row)
  Program.modify fun ctx => { ctx with redirection := Function.update ctx.redirection index row }

/-- A mask of `filtering_mask`. -/
def filteringMask (offset : Nat) : BitVec 32 :=
  1#32 <<< offset

/-- The loop of `omci_api_exception_config_table_entry_update` over the protocols, from the
position `i` of the table. -/
def filteringLoop (env : PreassignEnv) :
    List (BitVec 8 × Nat) → BitVec 32 → BitVec 32 → PreassignProgram (BitVec 32)
  | [], _, mask => pure mask
  | (operation, offset) :: rest, i, mask =>
      if offset = onuGpeExceptionOffsetArp ∧ mask.getLsbD offset = true then do
        snoopingSet env i (operation ≠ operationForward)
        filteringLoop env rest (i + 1) mask
      else if operation = operationForward then
        filteringLoop env rest (i + 1) (mask &&& ~~~filteringMask offset)
      else if operation = operationFilter then
        filteringLoop env rest (i + 1) (mask ||| filteringMask offset)
      else Program.fail

/-- `omci_api_exception_config_table_entry_update`. -/
def omciApiExceptionConfigTableEntryUpdate (env : PreassignEnv) (index : BitVec 32)
    (ingressEnable : Bool) (filters : PreassignFilters) : PreassignProgram Unit := do
  devCtl env (.exceptionGet index)
  let ctx ← Program.read
  let entry := ctx.exception index
  let mask ← filteringLoop env filters.table 0 entry.egressExceptionFlagMask
  let entry : ExceptionRow :=
    if ingressEnable then { entry with ingressExceptionFlagMask := mask }
    else { entry with egressExceptionFlagMask := mask }
  devCtl env (.exceptionSet index entry)
  Program.modify fun ctx => { ctx with exception := Function.update ctx.exception index entry }

/-- `omci_api_mac_bridge_port_is_ani`. -/
def omciApiMacBridgePortIsAni (env : PreassignEnv) (meId : BitVec 16) : PreassignProgram Bool := do
  let bridgePortIndex ← indexGet MapperIdType.macbridgeportMeidToIdx meId
  devCtl env (.bridgePortGet (bridgePortIndex.setWidth 8))
  return env.tpType (bridgePortIndex.setWidth 8) &&& 2 ≠ 0

def exceptIdType (aniIndication : Bool) : MapperIdType :=
  if aniIndication then MapperIdType.macbridgeportfptdMeidToUsexceptidx
  else MapperIdType.macbridgeportfptdMeidToDsexceptidx

/-- `omci_api_mac_bridge_port_filter_preassign_table_create`. -/
def omciApiMacBridgePortFilterPreassignTableCreate (env : PreassignEnv) (meId : BitVec 16)
    (filters : PreassignFilters) : PreassignProgram Unit := do
  let aniIndication ← omciApiMacBridgePortIsAni env meId
  let exceptionIdx ← idMap env (exceptIdType aniIndication) meId
  let updated ←
    (omciApiExceptionConfigTableEntryUpdate env exceptionIdx false filters).succeeds
  -- The return code of the update is lost here.
  if updated then pure () else idRemove (exceptIdType aniIndication) meId

/-- `omci_api_mac_bridge_port_filter_preassign_table_update`. -/
def omciApiMacBridgePortFilterPreassignTableUpdate (env : PreassignEnv) (meId : BitVec 16)
    (filters : PreassignFilters) : PreassignProgram Unit := do
  let aniIndication ← omciApiMacBridgePortIsAni env meId
  let exceptionIdx ← indexGet (exceptIdType aniIndication) meId
  omciApiExceptionConfigTableEntryUpdate env exceptionIdx false filters

def forwarding : PreassignFilters :=
  ⟨0, 0, 0, 0, 0, 0, 0, 0, 0, 0⟩

/-- `omci_api_mac_bridge_port_filter_preassign_table_destroy`. -/
def omciApiMacBridgePortFilterPreassignTableDestroy (env : PreassignEnv) (meId : BitVec 16) :
    PreassignProgram Unit := do
  let aniIndication ← omciApiMacBridgePortIsAni env meId
  let exceptionIdx ← indexGet (exceptIdType aniIndication) meId
  omciApiExceptionConfigTableEntryUpdate env exceptionIdx false forwarding
  idRemove (exceptIdType aniIndication) meId

/-! ## What the operations do -/

section Operations

variable {α β : Type} {env : PreassignEnv} {ctx ctx' : PreassignCtx}

def Taken (env : PreassignEnv) (ctx ctx' : PreassignCtx) : Prop :=
  ∀ call ∈ ctx'.calls, call ∈ ctx.calls ∨ env.accepts call = true

theorem Taken.refl (env : PreassignEnv) (ctx : PreassignCtx) : Taken env ctx ctx :=
  fun _ hcall => .inl hcall

theorem Taken.trans {ctx'' : PreassignCtx} (hone : Taken env ctx ctx')
    (htwo : Taken env ctx' ctx'') : Taken env ctx ctx'' := by
  intro call hcall
  cases htwo call hcall with
  | inl hearlier => exact hone call hearlier
  | inr htaken => exact .inr htaken

theorem returns_devCtl {call : PreassignIoctl} {u : Unit} :
    (devCtl env call).Returns ctx u ctx' ↔ env.accepts call = true ∧ ctx' = ctx.record call := by
  change (if env.accepts call then some () else none, ctx.record call) = (some u, ctx') ↔ _
  rw [Prod.mk.injEq, eq_comm (a := ctx.record call)]
  refine and_congr_left fun _ => ?_
  cases env.accepts call with
  | true => exact iff_of_true rfl rfl
  | false => exact iff_of_false nofun nofun

theorem devCtl_bind {call : PreassignIoctl} {f : Unit → PreassignProgram α} :
    (devCtl env call >>= f) ctx =
      if env.accepts call then f () (ctx.record call) else (none, ctx.record call) :=
  Program.bind_apply_ite rfl

theorem taken_record {call : PreassignIoctl} (h : env.accepts call = true) :
    Taken env ctx (ctx.record call) := by
  intro made hmade
  cases List.mem_append.mp hmade with
  | inl hold => exact .inl hold
  | inr hnew => exact .inr (List.mem_singleton.mp hnew ▸ h)

def Still (x : PreassignProgram α) : Prop :=
  x.Keeps fun before after =>
    after.mapper = before.mapper ∧ after.exception = before.exception

theorem Still.bind {x : PreassignProgram α} {f : α → PreassignProgram β} (h : Still x)
    (hf : ∀ a, Still (f a)) : Still (x >>= f) :=
  Program.Keeps.bind
    (fun hone htwo => ⟨htwo.1.trans hone.1, htwo.2.trans hone.2⟩) h hf

theorem still_devCtl (call : PreassignIoctl) : Still (devCtl env call) :=
  fun _ => ⟨rfl, rfl⟩

theorem still_indexGet (idType : MapperIdType) (meId : BitVec 16) : Still (indexGet idType meId) :=
  fun _ => ⟨rfl, rfl⟩

theorem isAni_leaves (env : PreassignEnv) (meId : BitVec 16) :
    (omciApiMacBridgePortIsAni env meId).Keeps fun before after =>
      (after.mapper = before.mapper ∧ after.exception = before.exception) ∧
        after.redirection = before.redirection := by
  have hredirection : (omciApiMacBridgePortIsAni env meId).Keeps fun before after =>
      after.redirection = before.redirection :=
    Program.Keeps.bind (fun hone htwo => htwo.trans hone) (fun _ => rfl) fun _ =>
      Program.Keeps.bind (fun hone htwo => htwo.trans hone) (fun _ => rfl) fun _ _ => rfl
  have hstill : Still (omciApiMacBridgePortIsAni env meId) :=
    (still_indexGet _ _).bind fun _ => (still_devCtl _).bind fun _ _ => ⟨rfl, rfl⟩
  exact fun ctx => ⟨hstill ctx, hredirection ctx⟩

theorem still_snoopingSet (index : BitVec 32) (snooping : Bool) :
    Still (snoopingSet env index snooping) :=
  (still_devCtl _).bind fun _ => Still.bind (fun _ => ⟨rfl, rfl⟩) fun _ =>
    (still_devCtl _).bind fun _ _ => ⟨rfl, rfl⟩

theorem still_filteringLoop (table : List (BitVec 8 × Nat)) (i mask : BitVec 32) :
    Still (filteringLoop env table i mask) := by
  induction table generalizing i mask with
  | nil => exact fun _ => ⟨rfl, rfl⟩
  | cons protocol rest ih =>
      rw [filteringLoop]
      split
      · exact (still_snoopingSet _ _).bind fun _ => ih _ _
      · split
        · exact ih _ _
        · split
          · exact ih _ _
          · exact fun _ => ⟨rfl, rfl⟩

theorem taken_isAni {meId : BitVec 16} {ani : Bool}
    (h : (omciApiMacBridgePortIsAni env meId).Returns ctx ani ctx') : Taken env ctx ctx' := by
  have ⟨_, _, hindex, h⟩ := Program.returns_bind.mp h
  have ⟨_, _, hget, h⟩ := Program.returns_bind.mp h
  have ⟨hgetTaken, hgetCtx⟩ := returns_devCtl.mp hget
  rw [(Program.returns_pure.mp h).2, hgetCtx, ← (Prod.mk.inj hindex).2]
  exact taken_record hgetTaken

theorem taken_snoopingSet {index : BitVec 32} {snooping : Bool} {u : Unit}
    (h : (snoopingSet env index snooping).Returns ctx u ctx') : Taken env ctx ctx' := by
  have ⟨_, _, hget, h⟩ := Program.returns_bind.mp h
  have ⟨hgetTaken, hgetCtx⟩ := returns_devCtl.mp hget
  have ⟨_, _, hread, h⟩ := Program.returns_bind.mp h
  have ⟨_, hreadCtx⟩ := Program.returns_read.mp hread
  have ⟨_, _, hset, h⟩ := Program.returns_bind.mp h
  have ⟨hsetTaken, hsetCtx⟩ := returns_devCtl.mp hset
  rw [hgetCtx] at hreadCtx
  rw [hreadCtx] at hsetCtx
  rw [Program.returns_modify.mp h, hsetCtx]
  exact (taken_record hgetTaken).trans (taken_record hsetTaken)

/-! ### The flags -/

def operationOf (flag : Bool) : BitVec 8 :=
  if flag then operationFilter else operationForward

/-- A flag becomes the operation that is asked for; the flag for ARP stays set once it is. -/
def Follows (operation : BitVec 8) (offset : Nat) (mask mask' : BitVec 32) : Prop :=
  if offset = onuGpeExceptionOffsetArp ∧ mask.getLsbD offset = true then
    mask'.getLsbD offset = true
  else operation = operationOf (mask'.getLsbD offset)

theorem getLsbD_filteringMask {offset other : Nat} (h : other < 32) :
    (filteringMask offset).getLsbD other = decide (other = offset) := by
  rw [filteringMask, ← BitVec.twoPow_eq, BitVec.getLsbD_twoPow]
  by_cases hsame : other = offset
  · rw [← hsame, decide_eq_true h, decide_eq_true rfl]
    exact Bool.and_self true
  · rw [decide_eq_false (Ne.symm hsame), decide_eq_false hsame]
    exact Bool.and_false _

theorem getLsbD_clear (mask : BitVec 32) {offset other : Nat} (h : other < 32) :
    (mask &&& ~~~filteringMask offset).getLsbD other =
      if other = offset then false else mask.getLsbD other := by
  rw [BitVec.getLsbD_and, BitVec.getLsbD_not, getLsbD_filteringMask h, decide_eq_true h,
    Bool.true_and]
  by_cases hsame : other = offset
  · rw [if_pos hsame, decide_eq_true hsame]
    exact Bool.and_false _
  · rw [if_neg hsame, decide_eq_false hsame]
    exact Bool.and_true _

theorem getLsbD_raise (mask : BitVec 32) {offset other : Nat} (h : other < 32) :
    (mask ||| filteringMask offset).getLsbD other =
      if other = offset then true else mask.getLsbD other := by
  rw [BitVec.getLsbD_or, getLsbD_filteringMask h]
  by_cases hsame : other = offset
  · rw [if_pos hsame, decide_eq_true hsame]
    exact Bool.or_true _
  · rw [if_neg hsame, decide_eq_false hsame]
    exact Bool.or_false _

/-- A turn of the loop gives a protocol its flag and leaves the others; the rest of the loop
leaves this one and gives the others theirs. -/
theorem follows_cons {operation : BitVec 8} {offset : Nat} {rest : List (BitVec 8 × Nat)}
    {mask turned mask' : BitVec 32} (hrest : ∀ protocol ∈ rest, protocol.2 ≠ offset)
    (hturn : Follows operation offset mask turned)
    (hturned : ∀ other < 32, other ≠ offset → turned.getLsbD other = mask.getLsbD other)
    (hrange : ∀ protocol ∈ (operation, offset) :: rest, protocol.2 < 32)
    (hothers : ∀ other < 32, (∀ protocol ∈ rest, protocol.2 ≠ other) →
      mask'.getLsbD other = turned.getLsbD other)
    (hfollows : ∀ protocol ∈ rest, Follows protocol.1 protocol.2 turned mask') :
    (∀ other < 32, (∀ protocol ∈ (operation, offset) :: rest, protocol.2 ≠ other) →
      mask'.getLsbD other = mask.getLsbD other) ∧
    ∀ protocol ∈ (operation, offset) :: rest, Follows protocol.1 protocol.2 mask mask' := by
  constructor
  · intro other hother hnone
    rw [hothers other hother fun protocol hprotocol =>
      hnone protocol (List.mem_cons_of_mem _ hprotocol)]
    exact hturned other hother (hnone _ List.mem_cons_self).symm
  · intro protocol hprotocol
    cases List.mem_cons.mp hprotocol with
    | inl hsame =>
        have hoffset := hrange _ List.mem_cons_self
        rw [hsame, Follows, hothers offset hoffset hrest]
        exact hturn
    | inr hlater =>
        have hfollow := hfollows protocol hlater
        have hother := hrange protocol hprotocol
        rw [Follows, hturned _ hother (hrest protocol hlater)] at hfollow
        exact hfollow

/-- The loop gives the protocols of the table their flags, and leaves the other flags. -/
theorem filteringLoop_returns {table : List (BitVec 8 × Nat)} {i mask mask' : BitVec 32}
    (hapart : (table.map Prod.snd).Nodup) (hrange : ∀ protocol ∈ table, protocol.2 < 32)
    (h : (filteringLoop env table i mask).Returns ctx mask' ctx') :
    ((∀ other < 32, (∀ protocol ∈ table, protocol.2 ≠ other) →
        mask'.getLsbD other = mask.getLsbD other) ∧
      ∀ protocol ∈ table, Follows protocol.1 protocol.2 mask mask') ∧ Taken env ctx ctx' := by
  induction table generalizing i mask ctx with
  | nil =>
      have ⟨hmask, hctx⟩ := Program.returns_pure.mp h
      rw [hmask, hctx]
      exact ⟨⟨fun _ _ _ => rfl, nofun⟩, Taken.refl env ctx⟩
  | cons protocol rest ih =>
      have ⟨operation, offset⟩ := protocol
      have ⟨hnew, hapart'⟩ := List.nodup_cons.mp hapart
      have hrest : ∀ other ∈ rest, other.2 ≠ offset := by
        intro other hother hsame
        have hmem : other.2 ∈ rest.map Prod.snd := List.mem_map_of_mem hother
        rw [hsame] at hmem
        exact hnew hmem
      have hrange' : ∀ other ∈ rest, other.2 < 32 :=
        fun other hother => hrange other (List.mem_cons_of_mem _ hother)
      have hoffset : offset < 32 := hrange _ List.mem_cons_self
      rw [filteringLoop] at h
      by_cases harp : offset = onuGpeExceptionOffsetArp ∧ mask.getLsbD offset = true
      · rw [if_pos harp] at h
        have ⟨_, _, hsnooping, h⟩ := Program.returns_bind.mp h
        have ⟨⟨hothers, hfollows⟩, htaken⟩ := ih hapart' hrange' h
        refine ⟨?_, (taken_snoopingSet hsnooping).trans htaken⟩
        refine follows_cons hrest ?_ (fun _ _ _ => rfl) hrange hothers hfollows
        rw [Follows, if_pos harp]
        exact harp.2
      · rw [if_neg harp] at h
        by_cases hforward : operation = operationForward
        · rw [if_pos hforward] at h
          have ⟨⟨hothers, hfollows⟩, htaken⟩ := ih hapart' hrange' h
          refine ⟨follows_cons hrest ?_ (fun other hother hne => ?_) hrange hothers hfollows, htaken⟩
          · rw [Follows, if_neg harp, getLsbD_clear mask hoffset, if_pos rfl]
            exact hforward
          · rw [getLsbD_clear mask hother, if_neg hne]
        · rw [if_neg hforward] at h
          by_cases hfilter : operation = operationFilter
          · rw [if_pos hfilter] at h
            have ⟨⟨hothers, hfollows⟩, htaken⟩ := ih hapart' hrange' h
            refine ⟨follows_cons hrest ?_ (fun other hother hne => ?_) hrange hothers hfollows,
              htaken⟩
            · rw [Follows, if_neg harp, getLsbD_raise mask hoffset, if_pos rfl]
              exact hfilter
            · rw [getLsbD_raise mask hother, if_neg hne]
          · rw [if_neg hfilter] at h
            exact absurd h Program.not_returns_fail

/-- The loop leaves the redirection table unless the flag for ARP is set when its turn comes. -/
theorem filteringLoop_redirection {table : List (BitVec 8 × Nat)} {i mask : BitVec 32}
    (hapart : (table.map Prod.snd).Nodup) (hunset : onuGpeExceptionOffsetArp ∈ table.map Prod.snd →
      mask.getLsbD onuGpeExceptionOffsetArp = false) (ctx : PreassignCtx) :
    (filteringLoop env table i mask ctx).2.redirection = ctx.redirection := by
  induction table generalizing i mask with
  | nil => rfl
  | cons protocol rest ih =>
      have ⟨operation, offset⟩ := protocol
      have ⟨hnew, hapart'⟩ := List.nodup_cons.mp hapart
      -- A turn for another protocol leaves the flag, and behind the turn for ARP there is none.
      have hlater : ∀ turned : BitVec 32, (∀ other < 32, other ≠ offset →
          turned.getLsbD other = mask.getLsbD other) →
          onuGpeExceptionOffsetArp ∈ rest.map Prod.snd →
            turned.getLsbD onuGpeExceptionOffsetArp = false := by
        intro turned hturned hmem
        have hne : onuGpeExceptionOffsetArp ≠ offset := fun hsame => hnew (hsame ▸ hmem)
        rw [hturned _ (by decide) hne]
        exact hunset (List.mem_cons_of_mem _ hmem)
      rw [filteringLoop]
      split
      · next harp =>
          have hmem : onuGpeExceptionOffsetArp ∈ ((operation, offset) :: rest).map Prod.snd :=
            harp.1 ▸ List.mem_cons_self
          rw [harp.1, hunset hmem] at harp
          exact absurd harp.2 Bool.false_ne_true
      · split
        · exact ih hapart' (hlater _ fun other hother hne =>
            (getLsbD_clear mask hother).trans (if_neg hne))
        · split
          · exact ih hapart' (hlater _ fun other hother hne =>
              (getLsbD_raise mask hother).trans (if_neg hne))
          · rfl

/-- The flags of a mask become the operations that are asked for, and the others stay. -/
structure FlagsFollow (filters : PreassignFilters) (mask mask' : BitVec 32) : Prop where
  others : ∀ offset, offset ∉ preassignOffsets → mask'.getLsbD offset = mask.getLsbD offset
  follow : ∀ protocol ∈ filters.table, Follows protocol.1 protocol.2 mask mask'

theorem map_table (filters : PreassignFilters) : filters.table.map Prod.snd = preassignOffsets :=
  rfl

theorem nodup_table (filters : PreassignFilters) : (filters.table.map Prod.snd).Nodup := by
  rw [map_table]
  decide

theorem flagsFollow_of_returns {filters : PreassignFilters} {mask mask' : BitVec 32}
    (h : (filteringLoop env filters.table 0 mask).Returns ctx mask' ctx') :
    FlagsFollow filters mask mask' ∧ Taken env ctx ctx' := by
  have hrange : ∀ protocol ∈ filters.table, protocol.2 < 32 := by
    intro protocol hprotocol
    have hmem : protocol.2 ∈ preassignOffsets := map_table filters ▸ List.mem_map_of_mem hprotocol
    have hbound : ∀ offset ∈ preassignOffsets, offset < 32 := by decide
    exact hbound protocol.2 hmem
  have ⟨⟨hothers, hfollows⟩, htaken⟩ := filteringLoop_returns (nodup_table filters) hrange h
  refine ⟨⟨fun offset hoffset => ?_, hfollows⟩, htaken⟩
  by_cases hlt : offset < 32
  · refine hothers offset hlt fun protocol hprotocol hsame => hoffset ?_
    rw [← hsame, ← map_table filters]
    exact List.mem_map_of_mem hprotocol
  · rw [BitVec.getLsbD_of_ge _ _ (Nat.le_of_not_lt hlt),
      BitVec.getLsbD_of_ge _ _ (Nat.le_of_not_lt hlt)]

/-- What an update that succeeds does to an entry of the exception table. -/
structure EntryUpdated (env : PreassignEnv) (index : BitVec 32) (filters : PreassignFilters)
    (ctx ctx' : PreassignCtx) : Prop where
  exception : ∃ mask, FlagsFollow filters (ctx.exception index).egressExceptionFlagMask mask ∧
    ctx'.exception = Function.update ctx.exception index
      { ctx.exception index with egressExceptionFlagMask := mask }
  taken : Taken env ctx ctx'

/-- An update of the egress flags of an entry is carried out, or it fails and changes no flag of
the exception table; where the flag for ARP is not set, the redirection table is left. -/
structure EntryUpdates (env : PreassignEnv) (index : BitVec 32) (filters : PreassignFilters)
    (ctx : PreassignCtx) (result : Option Unit × PreassignCtx) : Prop where
  mapper : result.2.mapper = ctx.mapper
  ends : result.1 = none ∧ result.2.exception = ctx.exception ∨
    result.1 = some () ∧ EntryUpdated env index filters ctx result.2
  redirection :
    (ctx.exception index).egressExceptionFlagMask.getLsbD onuGpeExceptionOffsetArp = false →
      result.2.redirection = ctx.redirection

theorem entryUpdates (env : PreassignEnv) (index : BitVec 32) (filters : PreassignFilters)
    (ctx : PreassignCtx) : EntryUpdates env index filters ctx
      (omciApiExceptionConfigTableEntryUpdate env index false filters ctx) := by
  rw [omciApiExceptionConfigTableEntryUpdate, devCtl_bind]
  cases hget : env.accepts (.exceptionGet index) with
  | false =>
      rw [if_neg Bool.false_ne_true]
      exact {
        mapper := rfl
        ends := .inl ⟨rfl, rfl⟩
        redirection := fun _ => rfl }
  | true =>
      rw [if_pos rfl, Program.bind_apply (x := Program.read) rfl]
      have hstill := @still_filteringLoop env filters.table 0
        ((ctx.record (.exceptionGet index)).exception index).egressExceptionFlagMask
        (ctx.record (.exceptionGet index))
      have hredirection : (ctx.exception index).egressExceptionFlagMask.getLsbD
          onuGpeExceptionOffsetArp = false →
            (filteringLoop env filters.table 0
              ((ctx.record (.exceptionGet index)).exception index).egressExceptionFlagMask
              (ctx.record (.exceptionGet index))).2.redirection = ctx.redirection :=
        fun hunset => filteringLoop_redirection (nodup_table filters) (fun _ => hunset) _
      cases hloop : filteringLoop env filters.table 0
          ((ctx.record (.exceptionGet index)).exception index).egressExceptionFlagMask
          (ctx.record (.exceptionGet index)) with
      | mk result looped =>
          rw [hloop] at hstill hredirection
          have ⟨hmapper, hexception⟩ := hstill
          cases result with
          | none =>
              rw [Program.bind_apply_none hloop]
              exact ⟨hmapper, .inl ⟨rfl, hexception⟩, hredirection⟩
          | some mask =>
              have ⟨hflags, htaken⟩ := flagsFollow_of_returns hloop
              rw [Program.bind_apply hloop, if_neg Bool.false_ne_true, devCtl_bind]
              split
              · next hset =>
                  exact {
                    mapper := hmapper
                    ends := .inr ⟨rfl, {
                      exception := ⟨mask, hflags, congrArg (Function.update · index _) hexception⟩
                      taken := ((taken_record hget).trans htaken).trans (taken_record hset) }⟩
                    redirection := hredirection }
              · exact ⟨hmapper, .inl ⟨rfl, hexception⟩, hredirection⟩

/-! ### The entries of the ports -/

/-- A look-up finds the entry of a port, or fails and the port has none. -/
theorem indexGet_cases (h : ctx.mapper.WellFormed) (idType : MapperIdType) (meId : BitVec 16) :
    (∃ index, indexGet idType meId ctx = (some index, ctx) ∧
        ctx.mapper.Mapped idType (meId.setWidth 32) index) ∨
      indexGet idType meId ctx = (none, ctx) ∧
        ∀ index, ¬ctx.mapper.Mapped idType (meId.setWidth 32) index := by
  cases h.indexGet_cases idType (meId.setWidth 32) with
  | inl hfound =>
      have ⟨index, hget, hmapped⟩ := hfound
      left
      refine ⟨index, ?_, hmapped⟩
      rw [indexGet, hget]
      rfl
  | inr habsent =>
      have ⟨⟨ret, hret, hget⟩, hnone⟩ := habsent
      right
      refine ⟨?_, hnone⟩
      rw [indexGet, hget]
      exact Prod.ext (if_neg hret) rfl

theorem indexGet_of_mapped (h : ctx.mapper.WellFormed) {idType : MapperIdType} {meId : BitVec 16}
    {index : BitVec 32} (hmapped : ctx.mapper.Mapped idType (meId.setWidth 32) index) :
    indexGet idType meId ctx = (some index, ctx) := by
  cases indexGet_cases h idType meId with
  | inl hfound =>
      have ⟨other, hget, hother⟩ := hfound
      rw [hget, hother.index_unique h hmapped]
  | inr habsent => exact absurd hmapped (habsent.2 index)

theorem idRemove_of_mapped (h : ctx.mapper.WellFormed) {idType : MapperIdType} {meId : BitVec 16}
    {index : BitVec 32} (hmapped : ctx.mapper.Mapped idType (meId.setWidth 32) index) :
    ∃ removed : Mappers, idRemove idType meId ctx = (some (), { ctx with mapper := removed }) ∧
      removed.WellFormed ∧ ∀ otherType other otherIndex,
        removed.Mapped otherType other otherIndex ↔
          ctx.mapper.Mapped otherType other otherIndex ∧
            ¬(otherType = idType ∧ other = meId.setWidth 32) := by
  cases Mappers.mapped_idRemove h idType (meId.setWidth 32) with
  | inl habsent => exact absurd hmapped (habsent.2.2 index)
  | inr hremoved =>
      have ⟨hret, hwell, _, hpairs⟩ := hremoved
      exact ⟨_, Prod.ext (if_pos hret) rfl, hwell, hpairs⟩

/-- A port gets an entry, or it is refused and nothing changes. -/
theorem idMap_cases (h : ctx.mapper.WellFormed) (env : PreassignEnv) (idType : MapperIdType)
    (meId : BitVec 16) :
    idMap env idType meId ctx = (none, ctx) ∨
      ∃ index, ∃ mapped : Mappers,
        (ctx.mapper.idMap idType (meId.setWidth 32) env.mem).2 = .found index ∧
        idMap env idType meId ctx = (some index, { ctx with mapper := mapped }) ∧
        mapped.WellFormed ∧ (∀ other, ¬ctx.mapper.Mapped idType other index) ∧
        ∀ otherType other otherIndex, mapped.Mapped otherType other otherIndex ↔
          (otherType = idType ∧ other = meId.setWidth 32 ∧ otherIndex = index) ∨
            ctx.mapper.Mapped otherType other otherIndex := by
  cases Mappers.mapped_idMap_cases h idType (meId.setWidth 32) env.mem with
  | inl hrefused =>
      have ⟨hret, hsame⟩ := hrefused
      left
      rw [idMap, hsame, if_neg hret]
  | inr hadded =>
      have ⟨_, index, _, hfound, hwell, _, hfresh, hpairs⟩ := hadded
      right
      refine ⟨index, _, hfound, ?_, hwell, hfresh, hpairs⟩
      rw [idMap, hfound]
      rfl

theorem not_mapped_of_added {mappers mapped : Mappers} (hwell : mapped.WellFormed)
    {idType : MapperIdType} {id index : BitVec 32}
    (hfresh : ∀ other, ¬mappers.Mapped idType other index)
    (hpairs : ∀ otherType other otherIndex, mapped.Mapped otherType other otherIndex ↔
      (otherType = idType ∧ other = id ∧ otherIndex = index) ∨
        mappers.Mapped otherType other otherIndex) (otherIndex : BitVec 32) :
    ¬mappers.Mapped idType id otherIndex := by
  intro hold
  have hnew : mapped.Mapped idType id index := (hpairs _ _ _).mpr (.inl ⟨rfl, rfl, rfl⟩)
  have hindex := hnew.index_unique hwell ((hpairs _ _ _).mpr (.inr hold))
  rw [← hindex] at hold
  exact hfresh id hold

end Operations

end FilterPreassign

end FalconGpon.Api
