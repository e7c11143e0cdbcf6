/-
# T-CONTs

A T-CONT ME is mapped to one of the T-CONTs of the hardware when it gets its first alloc id:
to the one that carries the alloc id, else to the first one that is free, which is one with the
alloc id 0xff. Deallocation frees the T-CONT and removes the mapping, destruction removes the
mapping.

`TcontKept` says what a request has to keep of the mapping, the T-CONTs and the alloc ids of the
MEs, and `TcontGuard` which requests do.
-/

import FalconGpon.Api.MapperPairs

namespace FalconGpon.Api

open FalconGpon.Lib

/-- `struct gpe_tcont` without the index. -/
structure GpeTcont where
  allocId : BitVec 32
  regEgressPort : BitVec 32
  preEgressPort : BitVec 32
deriving DecidableEq

/-- `ONU_GPE_MAX_TCONT`. -/
def onuGpeMaxTcont : Nat := 32

def tcontFree : BitVec 32 := 0xff

/-- The mappers and the T-CONTs of the hardware. -/
structure TcontCtx where
  mapper : Mappers
  tcont : BitVec 32 → GpeTcont

def TcontCtx.set (ctx : TcontCtx) (idx : BitVec 32) (tcont : GpeTcont) : TcontCtx :=
  { ctx with tcont := fun other => if other = idx then tcont else ctx.tcont other }

@[simp] theorem TcontCtx.set_tcont_self (ctx : TcontCtx) (idx : BitVec 32) (tcont : GpeTcont) :
    (ctx.set idx tcont).tcont idx = tcont :=
  if_pos rfl

theorem TcontCtx.set_tcont_of_ne (ctx : TcontCtx) {idx other : BitVec 32} (tcont : GpeTcont)
    (hne : other ≠ idx) : (ctx.set idx tcont).tcont other = ctx.tcont other :=
  if_neg hne

/-- The outcomes of the driver calls of one request, and whether there is memory. -/
structure TcontEnv where
  /-- `FIO_GPE_TCONT_GET` in the search. -/
  tcontGet : BitVec 32 → Bool
  /-- `FIO_GPE_TCONT_GET` after it. -/
  tcontReget : Bool
  tcontSet : Bool
  tcontDelete : Bool
  mem : Bool

/-- What the search for a T-CONT comes to. -/
inductive TcontSearch
  /-- It carries the alloc id. -/
  | found (idx : BitVec 32)
  | firstFree (idx : BitVec 32)
  /-- A driver call failed before any was found. -/
  | failed
  | exhausted
deriving DecidableEq

/-- The loop of `omci_api_tcont_set`, with the T-CONT that was read last. -/
def tcontSearch (ctx : TcontCtx) (env : TcontEnv) (allocId : BitVec 32) :
    List (BitVec 32) → Option (BitVec 32) → GpeTcont → TcontSearch × GpeTcont
  | [], free, last => (free.elim .exhausted .firstFree, last)
  | i :: rest, free, last =>
      if env.tcontGet i then
        let tcont := ctx.tcont i
        if tcont.allocId = allocId then (.found i, tcont)
        else if tcont.allocId = tcontFree ∧ free = none then
          tcontSearch ctx env allocId rest (some i) tcont
        else tcontSearch ctx env allocId rest free tcont
      else (free.elim .failed .firstFree, last)

/-- The search over all T-CONTs. -/
def tcontSearchAll (ctx : TcontCtx) (env : TcontEnv) (allocId : BitVec 16) :
    TcontSearch × GpeTcont :=
  tcontSearch ctx env (allocId.setWidth 32)
    ((List.range onuGpeMaxTcont).map (BitVec.ofNat 32)) none ⟨0, 0, 0⟩

/-- `explicit_map` of a T-CONT. -/
def tcontMap (ctx : TcontCtx) (env : TcontEnv) (meId : BitVec 16) (idx : BitVec 32) :
    Mappers × MapperReply :=
  ctx.mapper.explicitMap MapperIdType.tcontMeidToIdx (meId.setWidth 32) idx env.mem

/-- The end of `omci_api_tcont_set`: read a T-CONT and write it with the alloc id and the egress
port of the ME. If it cannot be read, what was read last is written. -/
def tcontProgram (ctx : TcontCtx) (env : TcontEnv) (meId allocId : BitVec 16) (idx : BitVec 32)
    (last : GpeTcont) : TcontCtx × Bool :=
  let tcont := if env.tcontReget then ctx.tcont idx else last
  let tcont :=
    { tcont with
      regEgressPort := meId.setWidth 32 &&& 0xff
      allocId := allocId.setWidth 32 }
  if env.tcontSet then (ctx.set idx tcont, true) else (ctx, false)

/-- `omci_api_tcont_set`. -/
def omciApiTcontSet (ctx : TcontCtx) (env : TcontEnv) (meId allocId : BitVec 16) :
    TcontCtx × Bool :=
  match ctx.mapper.indexGet MapperIdType.tcontMeidToIdx (meId.setWidth 32) with
  | ⟨.success, some idx, _⟩ => tcontProgram ctx env meId allocId idx ⟨0, 0, 0⟩
  | _ =>
      let search := tcontSearchAll ctx env allocId
      match search.1 with
      | .found idx | .firstFree idx =>
          let mapped := tcontMap ctx env meId idx
          if mapped.2.ret = .success then
            tcontProgram { ctx with mapper := mapped.1 } env meId allocId idx search.2
          else (ctx, false)
      | .failed => (ctx, false)
      -- the last call succeeded, and the index is that of the last T-CONT
      | .exhausted =>
          tcontProgram ctx env meId allocId (BitVec.ofNat 32 (onuGpeMaxTcont - 1)) search.2

/-- `omci_api_tcont_delete`. -/
def omciApiTcontDelete (ctx : TcontCtx) (env : TcontEnv) (meId : BitVec 16) : TcontCtx × Bool :=
  match ctx.mapper.indexGet MapperIdType.tcontMeidToIdx (meId.setWidth 32) with
  | ⟨.success, some idx, _⟩ =>
      let removed := ctx.mapper.idRemove MapperIdType.tcontMeidToIdx (meId.setWidth 32)
      let ctx :=
        if env.tcontDelete then ctx.set idx { ctx.tcont idx with allocId := tcontFree } else ctx
      ({ ctx with mapper := removed.1 }, removed.2.ret = .success)
  | ⟨.notFound, _, _⟩ => (ctx, true)
  | _ => (ctx, false)

def TcontDealloc (allocId : BitVec 16) : Prop := allocId = 0xff ∨ allocId = 0xffff

instance (allocId : BitVec 16) : Decidable (TcontDealloc allocId) :=
  inferInstanceAs (Decidable (_ ∨ _))

/-- `omci_api_tcont_update`. -/
def omciApiTcontUpdate (ctx : TcontCtx) (env : TcontEnv) (meId allocId : BitVec 16) :
    TcontCtx × Bool :=
  if TcontDealloc allocId then omciApiTcontDelete ctx env meId
  else omciApiTcontSet ctx env meId allocId

/-- `omci_api_tcont_destroy`. -/
def omciApiTcontDestroy (ctx : TcontCtx) (meId : BitVec 16) : TcontCtx × Bool :=
  match ctx.mapper.indexGet MapperIdType.tcontMeidToIdx (meId.setWidth 32) with
  | ⟨.success, some _, _⟩ =>
      ({ ctx with
          mapper := (ctx.mapper.idRemove MapperIdType.tcontMeidToIdx (meId.setWidth 32)).1 }, true)
  | _ => (ctx, true)

/-! ## Runs -/

/-- A request for a T-CONT ME. -/
inductive TcontCall
  | update (meId allocId : BitVec 16) (env : TcontEnv)
  | destroy (meId : BitVec 16)

def TcontCall.meId : TcontCall → BitVec 16
  | .update meId _ _ => meId
  | .destroy meId => meId

def TcontCall.Releases : TcontCall → Prop
  | .update _ allocId _ => TcontDealloc allocId
  | .destroy _ => True

/-- The context with the alloc ids that the MEs were given last. -/
structure TcontState where
  ctx : TcontCtx
  allocId : BitVec 16 → Option (BitVec 16)

namespace TcontState

def reply (s : TcontState) : TcontCall → TcontCtx × Bool
  | .update meId allocId env => omciApiTcontUpdate s.ctx env meId allocId
  | .destroy meId => omciApiTcontDestroy s.ctx meId

def given : TcontCall → Option (BitVec 16)
  | .update _ allocId _ => if TcontDealloc allocId then none else some allocId
  | .destroy _ => none

def after (s : TcontState) (call : TcontCall) (result : TcontCtx × Bool) : TcontState where
  ctx := result.1
  allocId meId := if meId = call.meId ∧ result.2 then given call else s.allocId meId

def step (s : TcontState) (call : TcontCall) : Option TcontState :=
  some (s.after call (s.reply call))

def init (maxBridgePort : BitVec 32) (tcont : BitVec 32 → GpeTcont) : TcontState where
  ctx := ⟨Mappers.init maxBridgePort, tcont⟩
  allocId _ := none

def Mapped (s : TcontState) (meId : BitVec 16) (idx : BitVec 32) : Prop :=
  s.ctx.mapper.Mapped MapperIdType.tcontMeidToIdx (meId.setWidth 32) idx

/-- The T-CONT carries the alloc id of the ME and its egress port. -/
def Carries (s : TcontState) (meId : BitVec 16) (idx : BitVec 32) : Prop :=
  ∃ allocId, s.allocId meId = some allocId ∧
    (s.ctx.tcont idx).allocId = allocId.setWidth 32 ∧
    (s.ctx.tcont idx).regEgressPort = meId.setWidth 32 &&& 0xff

def Exhausted (s : TcontState) (allocId : BitVec 16) : Prop :=
  ∀ i < onuGpeMaxTcont, (s.ctx.tcont (BitVec.ofNat 32 i)).allocId ≠ allocId.setWidth 32 ∧
    (s.ctx.tcont (BitVec.ofNat 32 i)).allocId ≠ tcontFree

end TcontState

/-- What every request has to keep. -/
structure TcontKept (before : TcontState) (call : TcontCall) (after : TcontState) : Prop where
  oneToOne : ∀ meId other idx, after.Mapped meId idx → after.Mapped other idx → meId = other
  carries : ∀ meId idx, after.Mapped meId idx → after.Carries meId idx
  others : ∀ meId idx, meId ≠ call.meId → before.Mapped meId idx →
    after.Mapped meId idx ∧ after.ctx.tcont idx = before.ctx.tcont idx
  freed : ∀ idx, call.Releases → before.Mapped call.meId idx →
    (∀ meId, ¬after.Mapped meId idx) ∧ (after.ctx.tcont idx).allocId = tcontFree
  refused : ∀ meId allocId env, call = .update meId allocId env → ¬TcontDealloc allocId →
    (∀ idx, ¬before.Mapped meId idx) → before.Exhausted allocId →
      (before.reply call).2 = false ∧ after.ctx = before.ctx

/-- The requests that keep it: nothing that has a T-CONT is destroyed; a deallocation frees the
T-CONT; a new mapping is followed by the alloc id; and a search that fails is not taken for one
that has found the last T-CONT. -/
def TcontGuard (before : TcontState) : TcontCall → Prop
  | .destroy meId => ∀ idx, ¬before.Mapped meId idx
  | .update meId allocId env =>
      if TcontDealloc allocId then env.tcontDelete = true ∨ ∀ idx, ¬before.Mapped meId idx
      else
        (∃ idx, before.Mapped meId idx) ∨
          match (tcontSearchAll before.ctx env allocId).1 with
          | .found idx | .firstFree idx =>
              (tcontMap before.ctx env meId idx).2.ret ≠ .success ∨ env.tcontSet = true
          | .failed => True
          | .exhausted => env.tcontSet = false

end FalconGpon.Api
