/-
# Shapers along runs of queue and scheduler operations

The shapers that are mapped are to be those of the upstream queues and of the scheduler 0x43 that
exist. No operation removes a mapping: it is left behind by a queue or scheduler that is
destroyed, whose id cannot be mapped again, and by the creation of a queue whose shaper the device
does not take.
-/

import FalconGpon.Api.QueueShapers

namespace FalconGpon.Api

open FalconGpon.Lib

/-- The operations on priority queues and traffic schedulers. -/
inductive QueueCall
  | queueCreate (env : QueueEnv) (meId : BitVec 16) (relatedPort : BitVec 32)
      (trafficSchedulerGPtr : BitVec 16) (params : QueueParams)
  | queueUpdate (env : QueueEnv) (meId : BitVec 16) (params : QueueParams)
  | queueDestroy (env : QueueEnv) (meId : BitVec 16)
  | schedulerCreate (env : QueueEnv) (meId tcontPtr trafficSchedulerPtr : BitVec 16)
      (policy priorityWeight : BitVec 8)
  | schedulerUpdate (env : QueueEnv) (meId : BitVec 16) (priorityWeight : BitVec 8)
  | schedulerDestroy (env : QueueEnv) (meId : BitVec 16)

/-- The operation; it says whether a scheduler has mapped a shaper. -/
def QueueCall.run : QueueCall → QueueProgram Bool
  | .queueCreate env meId relatedPort trafficSchedulerGPtr params =>
      omciApiPriorityQueueCreate env meId relatedPort trafficSchedulerGPtr params >>=
        fun _ => pure false
  | .queueUpdate env meId params => omciApiPriorityQueueUpdate env meId params >>=
      fun _ => pure false
  | .queueDestroy env meId => omciApiPriorityQueueDestroy env meId >>= fun _ => pure false
  | .schedulerCreate env meId tcontPtr trafficSchedulerPtr policy priorityWeight =>
      omciApiTrafficSchedulerCreate env meId tcontPtr trafficSchedulerPtr policy priorityWeight
  | .schedulerUpdate env meId priorityWeight =>
      omciApiTrafficSchedulerUpdate env meId priorityWeight >>= fun _ => pure false
  | .schedulerDestroy env meId => omciApiTrafficSchedulerDestroy env meId >>= fun _ => pure false

/-- The mapper, with the MEs that exist and the schedulers that own a shaper. An ME exists from
a creation that succeeds to a destruction that succeeds. -/
structure QueueState where
  mapper : Mappers
  queues : Finset (BitVec 16)
  schedulers : Finset (BitVec 16)
  owners : Finset (BitVec 16)

namespace QueueState

def outcome (s : QueueState) (call : QueueCall) : Option Bool × QueueCtx :=
  call.run ⟨s.mapper, []⟩

/-- The MEs behind an operation that succeeds. -/
def account (s : QueueState) (mapper : Mappers) (owns : Bool) : QueueCall → QueueState
  | .queueCreate _ meId _ _ _ => { s with mapper := mapper, queues := insert meId s.queues }
  | .queueDestroy _ meId => { s with mapper := mapper, queues := s.queues.erase meId }
  | .schedulerCreate _ meId _ _ _ _ =>
      { s with
        mapper := mapper
        schedulers := insert meId s.schedulers
        owners := if owns then insert meId s.owners else s.owners }
  | .schedulerDestroy _ meId =>
      { s with
        mapper := mapper
        schedulers := s.schedulers.erase meId
        owners := s.owners.erase meId }
  | _ => { s with mapper := mapper }

/-- One operation. -/
def step (s : QueueState) (call : QueueCall) : Option QueueState :=
  match s.outcome call with
  | (some owns, ctx) => some (s.account ctx.mapper owns call)
  | (none, ctx) => some { s with mapper := ctx.mapper }

def init (maxBridgePort : BitVec 32) : QueueState :=
  ⟨Mappers.init maxBridgePort, ∅, ∅, ∅⟩

def Mapped (s : QueueState) (id index : BitVec 32) : Prop :=
  s.mapper.Mapped MapperIdType.pqueueMeidToTbsIdx id index

/-- The shapers that are mapped are those of the upstream queues that exist and of the schedulers
that own one. -/
def Exact (s : QueueState) : Prop :=
  ∀ id, (∃ index, s.Mapped id index) ↔
    (∃ meId ∈ s.queues, isUpstream meId = true ∧ id = meId.setWidth 32) ∨
      (id = tbsSchedulerId ∧ s.owners.Nonempty)

def HasRoom (s : QueueState) : Prop :=
  ∃ index : BitVec 32, index ≤ 255 ∧ ∀ id, ¬s.Mapped id index

end QueueState

/-- The hardware queue that a call of the device is for. -/
def QueueIoctl.queue : QueueIoctl → Option (BitVec 32)
  | .egressQueueCreate create => some create.index
  | .egressQueueCfgGet index => some (index.setWidth 32)
  | .egressQueueCfgSet cfg => some cfg.index
  | .egressQueueGet index => some (index.setWidth 32)
  | .egressQueueDelete index => some (index.setWidth 32)
  | _ => none

/-- The ME of an operation on a queue. -/
def QueueCall.queue : QueueCall → Option (BitVec 16)
  | .queueCreate _ meId _ _ _ => some meId
  | .queueUpdate _ meId _ => some meId
  | .queueDestroy _ meId => some meId
  | _ => none

namespace QueueState

/-- An ME that does not exist is created, if the device takes it, there is memory and a shaper is
left; the scheduler 0x43 gets its shaper. -/
def Creates (s : QueueState) : QueueCall → Prop
  | .queueCreate env meId relatedPort trafficSchedulerGPtr params =>
      meId ∉ s.queues → (∀ call, env.accepts call = true) →
        (equeueCreate env meId relatedPort trafficSchedulerGPtr).isSome →
        (isUpstream meId = true → env.mem = true ∧ s.HasRoom) →
        (s.outcome (.queueCreate env meId relatedPort trafficSchedulerGPtr params)).1.isSome
  | .schedulerCreate env meId tcontPtr trafficSchedulerPtr policy priorityWeight =>
      meId ∉ s.schedulers → (∀ call, env.accepts call = true) →
        ∃ owns, (s.outcome (.schedulerCreate env meId tcontPtr trafficSchedulerPtr policy
            priorityWeight)).1 = some owns ∧
          ((schedCreate meId tcontPtr trafficSchedulerPtr policy priorityWeight).1.useRegular →
            meId.setWidth 8 = tbsScheduler → s.owners = ∅ → env.mem = true → s.HasRoom →
              owns = true)
  | _ => True

/-- What is expected of an operation. -/
structure ShapersRight (before : QueueState) (call : QueueCall) (after : QueueState) : Prop where
  exact : after.Exact
  unshared : ∀ id id' index, after.Mapped id index → after.Mapped id' index → id = id'
  creates : before.Creates call
  /-- All operations on a queue are for the same hardware queue. -/
  addressed : ∀ meId, call.queue = some meId → ∀ ioctl ∈ (before.outcome call).2.calls,
    ∀ index, ioctl.queue = some index → index = (meId.setWidth 8 : BitVec 8).setWidth 32

/-- The device takes a queue and its configuration. -/
def QueueTaken (env : QueueEnv) (meId : BitVec 16) (create : EqueueCreate)
    (params : QueueParams) : Prop :=
  env.accepts (.egressQueueCreate create) = true ∧ env.accepts .gpeCfgGet = true ∧
    env.accepts (.egressQueueCfgGet (queueIndex meId)) = true ∧
    env.accepts (.egressQueueCfgSet (queueCfg env meId params)) = true

/-- Where a shaper can be mapped for an upstream queue that the device takes, it takes the shaper
as well; and no upstream queue and no scheduler with a shaper is destroyed. -/
def Lasting (before : QueueState) : QueueCall → Prop
  | .queueCreate env meId relatedPort trafficSchedulerGPtr params =>
      isUpstream meId = true →
        ∀ create, equeueCreate env meId relatedPort trafficSchedulerGPtr = some create →
          QueueTaken env meId create params →
          ∀ index, (before.mapper.idMap MapperIdType.pqueueMeidToTbsIdx (meId.setWidth 32)
              env.mem).2 = .found index →
            env.accepts (.tokenBucketShaperCreate ⟨index, create.schedulerInput⟩) = true
  | .queueDestroy env meId =>
      meId ∈ before.queues → isUpstream meId = true →
        ¬(env.accepts (.egressQueueGet (queueIndex meId)) = true ∧
          env.accepts (.egressQueueDelete (queueIndex meId)) = true)
  | .schedulerDestroy env meId =>
      meId ∈ before.owners → env.accepts (.schedulerDelete (meId.setWidth 8)) = false
  | _ => True

/-- The mapper of the shapers has the ids of all MEs, and indices up to 255. -/
def Ranged (s : QueueState) : Prop :=
  ∃ m, s.mapper.mapperGet MapperIdType.pqueueMeidToTbsIdx = some m ∧
    (∀ meId : BitVec 16, m.inRange .id (meId.setWidth 32) = true) ∧
      ∀ index, m.inRange .index index = decide (index ≤ 255)

/-- The mapper is in order, it has exactly the shapers of the MEs that exist, and at most one
scheduler owns a shaper. -/
structure Accounted (s : QueueState) : Prop where
  wellFormed : s.mapper.WellFormed
  ranged : s.Ranged
  exact : s.Exact
  owner : ∀ meId ∈ s.owners, ∀ other ∈ s.owners, meId = other

end QueueState

/-! ## What the operations do -/

section Operations

variable {α : Type} {env : QueueEnv} {meId : BitVec 16} {params : QueueParams} {ctx : QueueCtx}

theorem devCtl_bind {call : QueueIoctl} {f : Unit → QueueProgram α} : (devCtl env call >>= f) ctx =
      if env.accepts call then f () (ctx.record call) else (none, ctx.record call) :=
  Program.bind_apply_ite rfl

def Calls (P : QueueIoctl → Prop) (x : QueueProgram α) : Prop :=
  x.Keeps fun before after => (∀ call ∈ before.calls, P call) → ∀ call ∈ after.calls, P call

def KeepsMapper (x : QueueProgram α) : Prop :=
  x.Keeps fun before after => after.mapper = before.mapper

section Calls

variable {P : QueueIoctl → Prop} {x : QueueProgram α}

theorem calls_pure (a : α) : Calls P (pure a : QueueProgram α) :=
  Program.keeps_pure (fun _ h => h) a

theorem Calls.bind {β : Type} {f : α → QueueProgram β} (h : Calls P x) (hf : ∀ a, Calls P (f a)) :
    Calls P (x >>= f) :=
  Program.Keeps.bind (fun hone htwo hcalls => htwo (hone hcalls)) h hf

theorem calls_devCtl {call : QueueIoctl} (h : P call) : Calls P (devCtl env call) := by
  intro ctx hcalls made hmade
  cases List.mem_append.mp hmade with
  | inl hold => exact hcalls made hold
  | inr hnew => exact List.mem_singleton.mp hnew ▸ h

theorem calls_shaperMap (id : BitVec 32) : Calls P (shaperMap env id) :=
  fun _ hcalls => hcalls

theorem calls_shaperGet (id : BitVec 32) : Calls P (shaperGet id) :=
  fun _ hcalls => hcalls

theorem calls_shaperDelete (hdelete : ∀ tbs, P (.tokenBucketShaperDelete tbs))
    (tbsIdx : Option (BitVec 32)) (schedulerInput : BitVec 32) :
    Calls P (shaperDelete env tbsIdx schedulerInput) := by
  cases tbsIdx with
  | none => exact calls_pure ()
  | some tbsIdx => exact (calls_devCtl (hdelete _)).attempt

end Calls

theorem queueIndex_eq (meId : BitVec 16) : queueIndex meId = meId.setWidth 8 := by
  rw [queueIndex, BitVec.setWidth_and]
  exact BitVec.and_allOnes

theorem createIndex_eq (meId : BitVec 16) :
    ((meId &&& 0xff).setWidth 8 : BitVec 8) = meId.setWidth 8 := by
  rw [BitVec.setWidth_and]
  exact BitVec.and_allOnes

def ForQueue (meId : BitVec 16) (call : QueueIoctl) : Prop :=
  ∀ index, call.queue = some index → index = (meId.setWidth 8 : BitVec 8).setWidth 32

/-- A call for the queue that `omci_api_priority_queue_update` and `_destroy` use. -/
theorem forQueue_of_queue {call : QueueIoctl}
    (h : call.queue = some ((queueIndex meId).setWidth 32)) : ForQueue meId call := by
  intro index hindex
  rw [h, Option.some.injEq, queueIndex_eq] at hindex
  exact hindex.symm

theorem calls_queueUpdate : Calls (ForQueue meId) (omciApiPriorityQueueUpdate env meId params) :=
  (calls_devCtl nofun).bind fun _ => (calls_devCtl (forQueue_of_queue rfl)).bind fun _ =>
    calls_devCtl (forQueue_of_queue rfl)

theorem calls_queueDestroy : Calls (ForQueue meId) (omciApiPriorityQueueDestroy env meId) :=
  (calls_devCtl (forQueue_of_queue rfl)).bind fun _ => (calls_shaperGet _).bind fun tbsIdx =>
    (calls_shaperDelete (fun _ => nofun) tbsIdx _).bind fun _ =>
      calls_devCtl (forQueue_of_queue rfl)

theorem index_equeueCreate {relatedPort : BitVec 32} {trafficSchedulerGPtr : BitVec 16}
    {create : EqueueCreate}
    (h : equeueCreate env meId relatedPort trafficSchedulerGPtr = some create) :
    create.index = (meId.setWidth 8 : BitVec 8).setWidth 32 := by
  rw [equeueCreate] at h
  rw [← createIndex_eq]
  split at h
  · rw [← Option.some.inj h]
  · have ⟨lan, _, hlan⟩ := Option.map_eq_some_iff.mp h
    rw [← hlan]

theorem calls_queueCreate {relatedPort : BitVec 32} {trafficSchedulerGPtr : BitVec 16} :
    Calls (ForQueue meId)
      (omciApiPriorityQueueCreate env meId relatedPort trafficSchedulerGPtr params) := by
  rw [omciApiPriorityQueueCreate]
  split
  · exact Program.keeps_fail fun _ h => h
  · next create hcreate =>
      have hindex : ForQueue meId (.egressQueueCreate create) := by
        intro index hsame
        rw [← index_equeueCreate hcreate]
        exact (Option.some.inj hsame).symm
      refine (calls_devCtl hindex).bind fun _ => calls_queueUpdate.bind fun _ => ?_
      split
      · exact (calls_shaperMap _).bind fun _ => calls_devCtl nofun
      · exact calls_pure ()

/-- All calls of an operation on a queue are for the hardware queue of the ME. -/
theorem calls_run {call : QueueCall} (h : call.queue = some meId) :
    Calls (ForQueue meId) call.run := by
  cases call with
  | queueCreate env me relatedPort trafficSchedulerGPtr params =>
      rw [← Option.some.inj h]
      exact calls_queueCreate.bind fun _ => calls_pure false
  | queueUpdate env me params =>
      rw [← Option.some.inj h]
      exact calls_queueUpdate.bind fun _ => calls_pure false
  | queueDestroy env me =>
      rw [← Option.some.inj h]
      exact calls_queueDestroy.bind fun _ => calls_pure false
  | schedulerCreate => cases h
  | schedulerUpdate => cases h
  | schedulerDestroy => cases h

/-! ### The mapper -/

section Mapper

variable {β : Type} {x : QueueProgram α}

theorem keepsMapper_pure (a : α) : KeepsMapper (pure a : QueueProgram α) :=
  fun _ => rfl

theorem keepsMapper_fail : KeepsMapper (Program.fail : QueueProgram α) :=
  fun _ => rfl

theorem KeepsMapper.bind {f : α → QueueProgram β} (h : KeepsMapper x)
    (hf : ∀ a, KeepsMapper (f a)) : KeepsMapper (x >>= f) :=
  Program.Keeps.bind (fun hone htwo => htwo.trans hone) h hf

theorem keepsMapper_devCtl (call : QueueIoctl) : KeepsMapper (devCtl env call) :=
  fun _ => rfl

theorem keepsMapper_shaperGet (id : BitVec 32) : KeepsMapper (shaperGet id) :=
  fun _ => rfl

theorem keepsMapper_shaperDelete (tbsIdx : Option (BitVec 32)) (schedulerInput : BitVec 32) :
    KeepsMapper (shaperDelete env tbsIdx schedulerInput) := by
  cases tbsIdx with
  | none => exact keepsMapper_pure ()
  | some tbsIdx => exact (keepsMapper_devCtl _).attempt

theorem keepsMapper_queueUpdate : KeepsMapper (omciApiPriorityQueueUpdate env meId params) :=
  (keepsMapper_devCtl _).bind fun _ => (keepsMapper_devCtl _).bind fun _ => keepsMapper_devCtl _

theorem keepsMapper_queueDestroy : KeepsMapper (omciApiPriorityQueueDestroy env meId) :=
  (keepsMapper_devCtl _).bind fun _ => (keepsMapper_shaperGet _).bind fun tbsIdx =>
    (keepsMapper_shaperDelete tbsIdx _).bind fun _ => keepsMapper_devCtl _

theorem keepsMapper_schedulerUpdate {priorityWeight : BitVec 8} :
    KeepsMapper (omciApiTrafficSchedulerUpdate env meId priorityWeight) :=
  (keepsMapper_devCtl _).bind fun _ => keepsMapper_devCtl _

theorem keepsMapper_onlyIf {p : Bool} {y : QueueProgram Unit} (h : KeepsMapper y) :
    KeepsMapper (onlyIf p y) := by
  cases p with
  | false => exact keepsMapper_pure ()
  | true => exact h

theorem keepsMapper_schedulerDestroy : KeepsMapper (omciApiTrafficSchedulerDestroy env meId) :=
  (keepsMapper_onlyIf ((keepsMapper_shaperGet _).bind fun tbsIdx =>
    keepsMapper_shaperDelete tbsIdx _)).bind fun _ => keepsMapper_devCtl _

theorem keepsMapper_schedDelete (schedulerIndex : BitVec 8) :
    KeepsMapper (schedDelete env schedulerIndex) :=
  KeepsMapper.bind (keepsMapper_devCtl _).attempt fun _ => keepsMapper_fail

end Mapper

/-! ### Queues -/

theorem queueUpdate_of_taken {create : EqueueCreate}
    (h : QueueState.QueueTaken env meId create params) (ctx : QueueCtx) :
    ∃ ctx', omciApiPriorityQueueUpdate env meId params ctx = (some (), ctx') ∧
      ctx'.mapper = ctx.mapper := by
  have ⟨_, hgpe, hget, hset⟩ := h
  rw [omciApiPriorityQueueUpdate, devCtl_bind, if_pos hgpe, devCtl_bind, if_pos hget, devCtl,
    if_pos hset]
  exact ⟨_, rfl, rfl⟩

theorem queueUpdate_taken (h : (omciApiPriorityQueueUpdate env meId params ctx).1.isSome) :
    env.accepts .gpeCfgGet = true ∧ env.accepts (.egressQueueCfgGet (queueIndex meId)) = true ∧
      env.accepts (.egressQueueCfgSet (queueCfg env meId params)) = true := by
  rw [omciApiPriorityQueueUpdate, devCtl_bind] at h
  split at h
  · next hgpe =>
      rw [devCtl_bind] at h
      split at h
      · next hget =>
          rw [devCtl] at h
          refine ⟨hgpe, hget, ?_⟩
          by_contra hset
          rw [if_neg hset] at h
          cases h
      · cases h
  · cases h

variable {relatedPort : BitVec 32} {trafficSchedulerGPtr : BitVec 16} {create : EqueueCreate}

theorem queueCreate_of_taken
    (hcreate : equeueCreate env meId relatedPort trafficSchedulerGPtr = some create)
    (h : QueueState.QueueTaken env meId create params) (ctx : QueueCtx) :
    ∃ ctx' : QueueCtx, ctx'.mapper = ctx.mapper ∧
      omciApiPriorityQueueCreate env meId relatedPort trafficSchedulerGPtr params ctx =
        (if isUpstream meId then do
          let tbsIdx ← shaperMap env (meId.setWidth 32)
          devCtl env (.tokenBucketShaperCreate ⟨tbsIdx, create.schedulerInput⟩)
        else pure () : QueueProgram Unit) ctx' := by
  have ⟨ctx', hupdate, hmapper⟩ := queueUpdate_of_taken h (ctx.record (.egressQueueCreate create))
  rw [omciApiPriorityQueueCreate, hcreate]
  dsimp only
  rw [devCtl_bind, if_pos h.1, Program.bind_apply hupdate]
  exact ⟨ctx', hmapper, rfl⟩

/-- A queue that the device does not take is not created, and no shaper is mapped for it. -/
theorem queueCreate_of_refused
    (h : ∀ create, equeueCreate env meId relatedPort trafficSchedulerGPtr = some create →
      ¬QueueState.QueueTaken env meId create params) (ctx : QueueCtx) :
    ∃ ctx' : QueueCtx, ctx'.mapper = ctx.mapper ∧
      omciApiPriorityQueueCreate env meId relatedPort trafficSchedulerGPtr params ctx =
        (none, ctx') := by
  rw [omciApiPriorityQueueCreate]
  cases hcreate : equeueCreate env meId relatedPort trafficSchedulerGPtr with
  | none => exact ⟨ctx, rfl, rfl⟩
  | some create =>
      dsimp only
      rw [devCtl_bind]
      split
      · next haccepts =>
          let made := ctx.record (.egressQueueCreate create)
          have hfailed : (omciApiPriorityQueueUpdate env meId params made).1 = none := by
            rw [← Option.not_isSome_iff_eq_none]
            exact fun htaken => h create hcreate ⟨haccepts, queueUpdate_taken htaken⟩
          exact ⟨_, keepsMapper_queueUpdate made,
            Program.bind_apply_none (Prod.ext hfailed rfl)⟩
      · exact ⟨ctx.record (.egressQueueCreate create), rfl, rfl⟩

theorem shaperGet_apply (id : BitVec 32) (ctx : QueueCtx) :
    ∃ tbsIdx, shaperGet id ctx = (some tbsIdx, ctx) :=
  ⟨_, rfl⟩

theorem shaperDelete_apply (env : QueueEnv) (tbsIdx : Option (BitVec 32))
    (schedulerInput : BitVec 32) (ctx : QueueCtx) :
    ∃ ctx', shaperDelete env tbsIdx schedulerInput ctx = (some (), ctx') := by
  cases tbsIdx with
  | none => exact ⟨_, rfl⟩
  | some tbsIdx => exact ⟨_, rfl⟩

theorem devCtl_isSome {call : QueueIoctl} :
    (devCtl env call ctx).1.isSome ↔ env.accepts call = true := by
  rw [devCtl]
  split
  · next haccepts => exact iff_of_true rfl haccepts
  · next hrefuses => exact iff_of_false nofun hrefuses

theorem queueDestroy_isSome : (omciApiPriorityQueueDestroy env meId ctx).1.isSome ↔
      env.accepts (.egressQueueGet (queueIndex meId)) = true ∧
        env.accepts (.egressQueueDelete (queueIndex meId)) = true := by
  rw [omciApiPriorityQueueDestroy, devCtl_bind]
  split
  · next haccepts =>
      have ⟨tbsIdx, hget⟩ := shaperGet_apply (meId.setWidth 32)
        (ctx.record (.egressQueueGet (queueIndex meId)))
      have ⟨ctx', hdelete⟩ := shaperDelete_apply env tbsIdx env.schedulerInput
        (ctx.record (.egressQueueGet (queueIndex meId)))
      rw [and_iff_right haccepts, Program.bind_apply hget, Program.bind_apply hdelete]
      exact devCtl_isSome
  · next hrefuses => exact iff_of_false nofun fun h => hrefuses h.1

/-! ### Schedulers -/

/-- A scheduler is destroyed exactly if the device deletes it. -/
theorem schedulerDestroy_isSome : (omciApiTrafficSchedulerDestroy env meId ctx).1.isSome ↔
      env.accepts (.schedulerDelete (meId.setWidth 8)) = true := by
  have hshaper : ∀ p, ∃ ctx', onlyIf p (do
      let tbsIdx ← shaperGet tbsSchedulerId
      shaperDelete env tbsIdx tbsSchedulerInput) ctx = (some (), ctx') := by
    intro p
    cases p with
    | false => exact ⟨_, rfl⟩
    | true =>
        have ⟨tbsIdx, hget⟩ := shaperGet_apply tbsSchedulerId ctx
        have ⟨ctx', hdelete⟩ := shaperDelete_apply env tbsIdx tbsSchedulerInput ctx
        exact ⟨ctx', (Program.bind_apply hget).trans hdelete⟩
  have ⟨ctx', hrun⟩ := hshaper (meId &&& 0x7f = tbsScheduler.setWidth 16)
  rw [omciApiTrafficSchedulerDestroy, Program.bind_apply hrun]
  exact devCtl_isSome

/-- An operation leaves the mapper as it is and maps no shaper, or maps that of the scheduler. -/
def MapsShaper (env : QueueEnv) (mapper : Mappers) (result : Option Bool × QueueCtx) : Prop :=
  (result.2.mapper = mapper ∧ result.1 ≠ some true) ∨
    ∃ index, (mapper.idMap MapperIdType.pqueueMeidToTbsIdx tbsSchedulerId env.mem).2 =
        .found index ∧ result.1 = some true ∧
      result.2.mapper =
        (mapper.idMap MapperIdType.pqueueMeidToTbsIdx tbsSchedulerId env.mem).1

theorem mapsShaper_bind {β : Type} {mapper : Mappers} {x : QueueProgram β}
    {f : β → QueueProgram Bool} (hx : KeepsMapper x)
    (hf : ∀ b ctx, ctx.mapper = mapper → MapsShaper env mapper (f b ctx)) (ctx : QueueCtx)
    (hctx : ctx.mapper = mapper) : MapsShaper env mapper ((x >>= f) ctx) := by
  have hmapper := (hx ctx).trans hctx
  cases hrun : x ctx with
  | mk result ctx' =>
      rw [hrun] at hmapper
      cases result with
      | none =>
          rw [Program.bind_apply_none hrun]
          exact .inl ⟨hmapper, nofun⟩
      | some b =>
          rw [Program.bind_apply hrun]
          exact hf b ctx' hmapper

/-- A shaper is mapped, or it is not and nothing changes. -/
theorem shaperMap_cases (hwell : ctx.mapper.WellFormed) (env : QueueEnv) (id : BitVec 32) :
    shaperMap env id ctx = (none, ctx) ∧
        (ctx.mapper.idMap MapperIdType.pqueueMeidToTbsIdx id env.mem).2.ret ≠ .success ∨
      ∃ index, (ctx.mapper.idMap MapperIdType.pqueueMeidToTbsIdx id env.mem).2 = .found index ∧
        shaperMap env id ctx = (some index, { ctx with
          mapper := (ctx.mapper.idMap MapperIdType.pqueueMeidToTbsIdx id env.mem).1 }) := by
  cases Mappers.mapped_idMap_cases hwell MapperIdType.pqueueMeidToTbsIdx id env.mem with
  | inl hrefused =>
      have ⟨hret, hsame⟩ := hrefused
      left
      rw [shaperMap, hsame, if_neg hret]
      exact ⟨rfl, hret⟩
  | inr hmapped =>
      have ⟨_, index, _, hfound, _⟩ := hmapped
      right
      refine ⟨index, hfound, ?_⟩
      rw [shaperMap, hfound]
      rfl

theorem mapsShaper_schedulerTbsCreate {mapper : Mappers} (hwell : mapper.WellFormed)
    (ctx : QueueCtx) (hctx : ctx.mapper = mapper) :
    MapsShaper env mapper (schedulerTbsCreate env ctx) := by
  rw [schedulerTbsCreate]
  cases shaperMap_cases (hctx ▸ hwell) env tbsSchedulerId with
  | inl hrefused =>
      rw [hrefused.1]
      exact .inl ⟨hctx, nofun⟩
  | inr hmapped =>
      have ⟨index, hfound, hrun⟩ := hmapped
      rw [hrun, ← hctx]
      exact .inr ⟨index, hfound, rfl, rfl⟩

variable {tcontPtr trafficSchedulerPtr : BitVec 16} {policy priorityWeight : BitVec 8}

theorem keepsMapper_egressPortEnable (ani : Bool) (epn : BitVec 8) :
    KeepsMapper (egressPortEnable env ani epn) := by
  cases ani with
  | false => exact keepsMapper_pure true
  | true => exact (keepsMapper_devCtl _).succeeds

theorem mapsShaper_schedulerCreate (hwell : ctx.mapper.WellFormed) :
    MapsShaper env ctx.mapper (omciApiTrafficSchedulerCreate env meId tcontPtr
      trafficSchedulerPtr policy priorityWeight ctx) := by
  rw [omciApiTrafficSchedulerCreate]
  refine mapsShaper_bind (keepsMapper_onlyIf (keepsMapper_devCtl _)) (fun _ => ?_) ctx rfl
  refine mapsShaper_bind ((keepsMapper_devCtl _).succeeds) fun created => ?_
  refine mapsShaper_bind (keepsMapper_onlyIf (keepsMapper_schedDelete _)) fun _ => ?_
  refine mapsShaper_bind (keepsMapper_egressPortEnable _ _) fun enabled => ?_
  refine mapsShaper_bind (keepsMapper_onlyIf (keepsMapper_schedDelete _)) fun _ ctx' hctx => ?_
  split
  · exact mapsShaper_schedulerTbsCreate hwell ctx' hctx
  · exact .inl ⟨hctx, nofun⟩

/-- If the device takes everything, a scheduler is created; it gets a shaper if it is the
scheduler 0x43 and one can be mapped. -/
theorem schedulerCreate_of_taken (h : ∀ call, env.accepts call = true) :
    ∃ ctx' : QueueCtx, ctx'.mapper = ctx.mapper ∧
      omciApiTrafficSchedulerCreate env meId tcontPtr trafficSchedulerPtr policy priorityWeight
          ctx =
        (if (schedCreate meId tcontPtr trafficSchedulerPtr policy priorityWeight).1.useRegular &&
            meId.setWidth 8 = tbsScheduler then schedulerTbsCreate env
        else pure false : QueueProgram Bool) ctx' := by
  have hdev : ∀ call ctx, devCtl env call ctx = (some (), ctx.record call) := by
    intro call ctx
    rw [devCtl, h]
    rfl
  have honly : ∀ p call ctx, ∃ ctx', onlyIf p (devCtl env call) ctx = (some (), ctx') ∧
      ctx'.mapper = ctx.mapper := by
    intro p call ctx
    cases p with
    | false => exact ⟨ctx, rfl, rfl⟩
    | true => exact ⟨_, hdev call ctx, rfl⟩
  have hsucceeds : ∀ call ctx, ∃ ctx', (devCtl env call).succeeds ctx = (some true, ctx') ∧
      ctx'.mapper = ctx.mapper := by
    intro call ctx
    refine ⟨ctx.record call, ?_, rfl⟩
    rw [Program.succeeds, hdev]
    rfl
  have henable : ∀ ani epn ctx, ∃ ctx', egressPortEnable env ani epn ctx = (some true, ctx') ∧
      ctx'.mapper = ctx.mapper := by
    intro ani epn ctx
    cases ani with
    | false => exact ⟨ctx, rfl, rfl⟩
    | true => exact hsucceeds _ ctx
  let sched := schedCreate meId tcontPtr trafficSchedulerPtr policy priorityWeight
  rw [omciApiTrafficSchedulerCreate]
  have ⟨ctx₁, hget, hmapper₁⟩ := honly (!sched.1.useRegular)
    (.schedulerGet sched.1.connectedSchedulerIndex) ctx
  rw [Program.bind_apply hget]
  have ⟨ctx₂, hcreate, hmapper₂⟩ := hsucceeds (.schedulerCreate { sched.1 with
    level := if sched.1.useRegular then 0 else env.level + 1 }) ctx₁
  rw [Program.bind_apply hcreate]
  have hnone : ∀ ctx, onlyIf (!true) (schedDelete env (meId.setWidth 8)) ctx = (some (), ctx) :=
    fun _ => rfl
  rw [Program.bind_apply (hnone ctx₂)]
  have ⟨ctx₃, henabled, hmapper₃⟩ := henable sched.2 (tcontPtr.setWidth 8) ctx₂
  rw [Program.bind_apply henabled, Program.bind_apply (hnone ctx₃)]
  exact ⟨ctx₃, hmapper₃.trans (hmapper₂.trans hmapper₁), rfl⟩

end Operations

/-! ## Runs -/

namespace QueueState

variable {s before after : QueueState} {id index : BitVec 32} {meId : BitVec 16} {call : QueueCall}

theorem upstream_ne (h : isUpstream meId = true) : meId.setWidth 32 ≠ tbsSchedulerId := by
  intro hsame
  have hmeId : meId = 0x80 := meId_inj hsame
  rw [hmeId] at h
  exact absurd h (by decide)

theorem Exact.mapped_upstream_iff (h : s.Exact) (hup : isUpstream meId = true) :
    (∃ index, s.Mapped (meId.setWidth 32) index) ↔ meId ∈ s.queues := by
  rw [h]
  constructor
  · intro hmapped
    cases hmapped with
    | inl hqueue =>
        have ⟨other, hother, _, hsame⟩ := hqueue
        exact meId_inj hsame ▸ hother
    | inr howner => exact absurd howner.1 (upstream_ne hup)
  · exact fun hqueue => .inl ⟨meId, hqueue, hup, rfl⟩

theorem Exact.mapped_scheduler_iff (h : s.Exact) :
    (∃ index, s.Mapped tbsSchedulerId index) ↔ s.owners.Nonempty := by
  rw [h]
  constructor
  · intro hmapped
    cases hmapped with
    | inl hqueue =>
        have ⟨_, _, hup, hsame⟩ := hqueue
        exact absurd hsame.symm (upstream_ne hup)
    | inr howner => exact howner.2
  · exact fun howner => .inr ⟨rfl, howner⟩

theorem Exact.of_downstream (h : s.Exact) {queues : Finset (BitVec 16)}
    (hsame : ∀ meId, isUpstream meId = true → (meId ∈ queues ↔ meId ∈ s.queues)) :
    Exact { s with queues := queues } := by
  intro id
  refine (h id).trans (or_congr_left (exists_congr fun meId => ?_))
  constructor
  · exact fun hmeId => ⟨(hsame meId hmeId.2.1).mpr hmeId.1, hmeId.2⟩
  · exact fun hmeId => ⟨(hsame meId hmeId.2.1).mp hmeId.1, hmeId.2⟩

theorem Exact.erase_iff (h : s.Exact) :
    Exact { s with queues := s.queues.erase meId } ↔
      ¬(meId ∈ s.queues ∧ isUpstream meId = true) := by
  constructor
  · intro hafter hqueue
    have hmapped : ∃ index, Mapped { s with queues := s.queues.erase meId }
        (meId.setWidth 32) index := (h.mapped_upstream_iff hqueue.2).mpr hqueue.1
    exact Finset.notMem_erase meId s.queues ((hafter.mapped_upstream_iff hqueue.2).mp hmapped)
  · intro hnone
    refine h.of_downstream fun other hother => ⟨Finset.mem_of_mem_erase, fun hmem => ?_⟩
    exact Finset.mem_erase.mpr ⟨fun hsame => hnone ⟨hsame ▸ hmem, hsame ▸ hother⟩, hmem⟩

theorem Accounted.eraseOwner_iff (h : s.Accounted) {schedulers : Finset (BitVec 16)} :
    Exact { s with schedulers := schedulers, owners := s.owners.erase meId } ↔
      meId ∉ s.owners := by
  constructor
  · intro hafter howner
    have hmapped : ∃ index,
        Mapped { s with schedulers := schedulers, owners := s.owners.erase meId }
          tbsSchedulerId index := h.exact.mapped_scheduler_iff.mpr ⟨meId, howner⟩
    have ⟨other, hother⟩ := hafter.mapped_scheduler_iff.mp hmapped
    have hmem := Finset.mem_erase.mp hother
    exact hmem.1 (h.owner other hmem.2 meId howner)
  · intro hnone
    rw [Finset.erase_eq_of_notMem hnone]
    exact h.exact

/-- What mapping a shaper for an id does. -/
theorem Accounted.mapShaper (h : s.Accounted) {mem : Bool} {mapper : Mappers}
    (hmap : s.mapper.idMap MapperIdType.pqueueMeidToTbsIdx id mem = (mapper, .found index)) :
    mapper.WellFormed ∧ Ranged { s with mapper := mapper } ∧
      (∀ other, (∃ index, Mapped { s with mapper := mapper } other index) ↔
        other = id ∨ ∃ index, s.Mapped other index) ∧
      ¬∃ index, s.Mapped id index := by
  have hranges := Mappers.sameRanges_idMap s.mapper MapperIdType.pqueueMeidToTbsIdx id mem
  cases Mappers.mapped_idMap_cases h.wellFormed MapperIdType.pqueueMeidToTbsIdx id mem with
  | inl hrefused =>
      rw [hmap] at hrefused
      exact absurd rfl hrefused.1
  | inr hmapped =>
      rw [hmap] at hmapped hranges
      have ⟨_, new, _, _, hwell, _, hfree, hpairs⟩ := hmapped
      have ⟨m, hget, hid, hindex⟩ := h.ranged
      have ⟨m', hget', hsame⟩ := hranges _ m hget
      refine ⟨hwell, ⟨m', hget', fun meId => (hsame _ _).trans (hid meId),
        fun index => (hsame _ _).trans (hindex index)⟩, fun other => ?_, fun hold => ?_⟩
      · constructor
        · intro hother
          have ⟨otherIndex, hpair⟩ := hother
          exact ((hpairs _ _ _).mp hpair).imp (fun hnew => hnew.2.1) fun hold => ⟨_, hold⟩
        · intro hother
          cases hother with
          | inl hnew => exact ⟨new, (hpairs _ _ _).mpr (.inl ⟨rfl, hnew, rfl⟩)⟩
          | inr hold =>
              have ⟨otherIndex, hpair⟩ := hold
              exact ⟨otherIndex, (hpairs _ _ _).mpr (.inr hpair)⟩
      · have ⟨oldIndex, hpair⟩ := hold
        have hone : mapper.Mapped MapperIdType.pqueueMeidToTbsIdx id new :=
          (hpairs _ _ _).mpr (.inl ⟨rfl, rfl, rfl⟩)
        have htwo : mapper.Mapped MapperIdType.pqueueMeidToTbsIdx id oldIndex :=
          (hpairs _ _ _).mpr (.inr hpair)
        exact hfree id (hone.index_unique hwell htwo ▸ hpair)

/-- A shaper is mapped for an id without one while there is memory and a shaper is left. -/
theorem Accounted.idMap_room (h : s.Accounted) (hroom : s.HasRoom)
    (hid : ∃ meId : BitVec 16, id = meId.setWidth 32) (hnew : ¬∃ index, s.Mapped id index) :
    ∃ index, (s.mapper.idMap MapperIdType.pqueueMeidToTbsIdx id true).2 = .found index := by
  have ⟨m, hget, hids, hindex⟩ := h.ranged
  have ⟨meId, hmeId⟩ := hid
  have ⟨free, hle, hfree⟩ := hroom
  have hnotFull : ¬m.Full .index := by
    intro hfull
    have ⟨item, hitem, hkey⟩ := hfull free ((hindex free).trans (decide_eq_true hle))
    have hmem := ((h.wellFormed.of_mapperGet hget).mem_iff .index .id).mp hitem
    have hmapped : s.Mapped item.id item.index := (Mappers.mapped_iff_mem hget).mpr hmem
    exact hfree item.id (hkey ▸ hmapped)
  have hrange : m.inRange .id id = true := hmeId ▸ hids meId
  have hnone : ∀ index, ¬s.mapper.Mapped MapperIdType.pqueueMeidToTbsIdx id index :=
    fun index hmapped => hnew ⟨index, hmapped⟩
  have ⟨index, hfound, _⟩ := Mappers.mapped_idMap h.wellFormed hget hrange hnone hnotFull
  exact ⟨index, hfound⟩

theorem accounted_init (maxBridgePort : BitVec 32) : (init maxBridgePort).Accounted where
  wellFormed := Mappers.wellFormed_init maxBridgePort
  ranged := by
    refine ⟨Mapper.init ⟨MapperIdType.pqueueMeidToTbsIdx, 1, 0, 0xffff, 0, 255⟩, rfl, ?_, ?_⟩
    · intro meId
      rw [Mapper.inRange_iff]
      have hlt := meId.isLt
      have hnum : (meId.setWidth 32).toNat = meId.toNat := by
        rw [BitVec.toNat_setWidth, Nat.mod_eq_of_lt (by omega)]
      rw [hnum]
      exact ⟨Nat.zero_le _, Nat.le_of_lt_succ hlt⟩
    · intro index
      have hzero : (0 : BitVec 32) ≤ index := Nat.zero_le index.toNat
      exact (congrArg (· && decide (index ≤ 255)) (decide_eq_true hzero)).trans (Bool.true_and _)
  exact id := by
    constructor
    · intro hmapped
      have ⟨index, hpair⟩ := hmapped
      exact absurd hpair (Mappers.not_mapped_init maxBridgePort)
    · intro hnone
      cases hnone with
      | inl hqueue =>
          have ⟨_, hmem, _⟩ := hqueue
          exact absurd hmem (Finset.notMem_empty _)
      | inr howner => exact absurd howner.2 Finset.not_nonempty_empty
  owner := fun _ hmem => absurd hmem (Finset.notMem_empty _)

/-! ### One operation -/

theorem step_discard {x : QueueProgram Unit} (hrun : call.run = x >>= fun _ => pure false) :
    s.step call = some (match x ⟨s.mapper, []⟩ with
      | (some _, ctx) => s.account ctx.mapper false call
      | (none, ctx) => { s with mapper := ctx.mapper }) := by
  have hbind := Program.bind_pure_apply x false ⟨s.mapper, []⟩
  rw [step, outcome, hrun, hbind]
  cases x ⟨s.mapper, []⟩ with
  | mk result ctx =>
      cases result with
      | none => rfl
      | some _ => rfl

def Judged (before : QueueState) (call : QueueCall) (after : QueueState) : Prop :=
  (after.Exact ↔ before.Lasting call) ∧ (before.Lasting call → after.Accounted)

theorem Accounted.judged (h : after.Accounted) (hlasting : before.Lasting call) :
    before.Judged call after :=
  ⟨iff_of_true h.exact hlasting, fun _ => h⟩

variable {env : QueueEnv} {relatedPort : BitVec 32} {trafficSchedulerGPtr : BitVec 16}
  {params : QueueParams}

/-- An upstream queue that the device has taken gets a shaper. -/
theorem Accounted.upstreamCreate (h : before.Accounted)
    {create : EqueueCreate} {ctx : QueueCtx} (hup : isUpstream meId = true)
    (hcreate : equeueCreate env meId relatedPort trafficSchedulerGPtr = some create)
    (htaken : QueueTaken env meId create params) (hmapper : ctx.mapper = before.mapper)
    (hstep : (match (do
        let tbsIdx ← shaperMap env (meId.setWidth 32)
        devCtl env (.tokenBucketShaperCreate ⟨tbsIdx, create.schedulerInput⟩) :
          QueueProgram Unit) ctx with
      | (some _, ctx) => before.account ctx.mapper false
          (.queueCreate env meId relatedPort trafficSchedulerGPtr params)
      | (none, ctx) => { before with mapper := ctx.mapper }) = after) :
    before.Judged (.queueCreate env meId relatedPort trafficSchedulerGPtr params) after := by
  have hwell : ctx.mapper.WellFormed := hmapper ▸ h.wellFormed
  cases shaperMap_cases hwell env (meId.setWidth 32) with
  | inl hrefused =>
      rw [Program.bind_apply_none hrefused.1] at hstep
      have hafter : before = after := by
        rw [← hstep]
        exact congrArg (QueueState.mk · _ _ _) hmapper.symm
      rw [← hafter]
      refine h.judged fun _ _ _ _ index hfound => ?_
      rw [← hmapper] at hfound
      exact absurd (congrArg MapperReply.ret hfound) hrefused.2
  | inr hmapped =>
      have ⟨index, hfound, hrun⟩ := hmapped
      rw [hmapper] at hfound hrun
      have ⟨hwell', hranged, hpairs, hnew⟩ := h.mapShaper (Prod.ext rfl hfound)
      rw [Program.bind_apply hrun, devCtl] at hstep
      have hlasting : before.Lasting (.queueCreate env meId relatedPort trafficSchedulerGPtr
          params) ↔
          env.accepts (.tokenBucketShaperCreate ⟨index, create.schedulerInput⟩) = true := by
        constructor
        · exact fun hlasting => hlasting hup create hcreate htaken index hfound
        · intro haccepts _ other hother _ otherIndex hotherIndex
          rw [hcreate, Option.some.injEq] at hother
          have hindex : index = otherIndex := by
            have hkey := congrArg MapperReply.key (hfound.symm.trans hotherIndex)
            exact Option.some.inj hkey
          rw [← hother, ← hindex]
          exact haccepts
      cases haccepts : env.accepts (.tokenBucketShaperCreate ⟨index, create.schedulerInput⟩) with
      | true =>
          rw [haccepts] at hstep
          have hexact : after.Exact := by
            rw [← hstep]
            intro id
            refine (hpairs id).trans ((or_congr_right (h.exact id)).trans ?_)
            rw [← or_assoc]
            refine or_congr_left ?_
            change _ ↔ ∃ other ∈ insert meId before.queues, _
            rw [Finset.exists_mem_insert, and_iff_right hup]
          refine Accounted.judged ?_ (hlasting.mpr haccepts)
          rw [← hstep] at hexact ⊢
          exact ⟨hwell', hranged, hexact, h.owner⟩
      | false =>
          rw [haccepts] at hstep
          have hfailed : ¬after.Exact := by
            intro hexact
            rw [← hstep] at hexact
            have hqueue := (hexact.mapped_upstream_iff hup).mp
              ((hpairs _).mpr (.inl rfl))
            exact hnew ((h.exact.mapped_upstream_iff hup).mpr hqueue)
          have hnot : ¬before.Lasting (.queueCreate env meId relatedPort trafficSchedulerGPtr
              params) := by
            rw [hlasting, haccepts]
            exact Bool.false_ne_true
          exact ⟨iff_of_false hfailed hnot, fun hlast => absurd hlast hnot⟩

theorem Accounted.queueCreate (h : before.Accounted)
    (hstep : before.step (.queueCreate env meId relatedPort trafficSchedulerGPtr params) =
      some after) :
    before.Judged (.queueCreate env meId relatedPort trafficSchedulerGPtr params) after := by
  rw [step_discard rfl, Option.some.injEq] at hstep
  by_cases htaken : ∃ create, equeueCreate env meId relatedPort trafficSchedulerGPtr = some create ∧
      QueueTaken env meId create params
  · have ⟨create, hcreate, htaken⟩ := htaken
    have ⟨ctx, hmapper, hrun⟩ := queueCreate_of_taken hcreate htaken ⟨before.mapper, []⟩
    rw [hrun] at hstep
    cases hup : isUpstream meId with
    | false =>
        have hafter : { before with queues := insert meId before.queues } = after := by
          rw [hup] at hstep
          rw [← hstep]
          exact congrArg (QueueState.mk · _ _ _) hmapper.symm
        have hexact : after.Exact := by
          rw [← hafter]
          refine h.exact.of_downstream fun other hother => ?_
          rw [Finset.mem_insert]
          refine or_iff_right fun hsame => ?_
          rw [hsame, hup] at hother
          exact Bool.false_ne_true hother
        refine Accounted.judged ?_ fun hupstream => ?_
        · rw [← hafter] at hexact ⊢
          exact ⟨h.wellFormed, h.ranged, hexact, h.owner⟩
        · rw [hup] at hupstream
          exact absurd hupstream Bool.false_ne_true
    | true =>
        rw [hup, if_pos rfl] at hstep
        exact h.upstreamCreate hup hcreate htaken hmapper hstep
  · have hrefused := fun create hcreate hqueue => htaken ⟨create, hcreate, hqueue⟩
    have ⟨ctx, hmapper, hrun⟩ := queueCreate_of_refused hrefused ⟨before.mapper, []⟩
    have hafter : before = after := by
      rw [hrun] at hstep
      rw [← hstep]
      exact congrArg (QueueState.mk · _ _ _) hmapper.symm
    rw [← hafter]
    exact h.judged fun _ create hcreate hqueue => absurd hqueue (hrefused create hcreate)

theorem step_keeps {x : QueueProgram Unit} (hrun : call.run = x >>= fun _ => pure false)
    (hkeeps : KeepsMapper x) :
    s.step call = some (if (x ⟨s.mapper, []⟩).1.isSome then s.account s.mapper false call
      else s) := by
  have hmapper : (x ⟨s.mapper, []⟩).2.mapper = s.mapper := hkeeps _
  rw [step_discard hrun]
  cases hx : x ⟨s.mapper, []⟩ with
  | mk result ctx =>
      rw [hx] at hmapper
      cases result with
      | none => exact congrArg some (congrArg (QueueState.mk · _ _ _) hmapper)
      | some _ => exact congrArg (fun mapper => some (s.account mapper false call)) hmapper

theorem Accounted.unchanged (h : before.Accounted) {x : QueueProgram Unit}
    (hrun : call.run = x >>= fun _ => pure false) (hkeeps : KeepsMapper x)
    (haccount : before.account before.mapper false call = before)
    (hlasting : before.Lasting call) (hstep : before.step call = some after) :
    before.Judged call after := by
  rw [step_keeps hrun hkeeps, haccount, ite_self, Option.some.injEq] at hstep
  exact hstep ▸ h.judged hlasting

theorem Accounted.queueDestroy (h : before.Accounted)
    (hstep : before.step (.queueDestroy env meId) = some after) :
    before.Judged (.queueDestroy env meId) after := by
  rw [step_keeps rfl keepsMapper_queueDestroy, Option.some.injEq] at hstep
  split at hstep
  · next hdone =>
      have hexact : after.Exact ↔ ¬(meId ∈ before.queues ∧ isUpstream meId = true) := by
        rw [← hstep]
        exact h.exact.erase_iff
      have hlasting : before.Lasting (.queueDestroy env meId) ↔
          ¬(meId ∈ before.queues ∧ isUpstream meId = true) :=
        ⟨fun hlasting hqueue => hlasting hqueue.1 hqueue.2 (queueDestroy_isSome.mp hdone),
          fun hnone hmem hup => absurd ⟨hmem, hup⟩ hnone⟩
      refine ⟨hexact.trans hlasting.symm, fun hlast => ?_⟩
      have hafter := (hexact.trans hlasting.symm).mpr hlast
      rw [← hstep] at hafter ⊢
      exact ⟨h.wellFormed, h.ranged, hafter, h.owner⟩
  · next hfailed =>
      rw [← hstep]
      exact h.judged fun _ _ hdone => hfailed (queueDestroy_isSome.mpr hdone)

theorem Accounted.schedulerDestroy (h : before.Accounted)
    (hstep : before.step (.schedulerDestroy env meId) = some after) :
    before.Judged (.schedulerDestroy env meId) after := by
  rw [step_keeps rfl keepsMapper_schedulerDestroy, Option.some.injEq] at hstep
  split at hstep
  · next hdone =>
      have haccepts := schedulerDestroy_isSome.mp hdone
      have hexact : after.Exact ↔ meId ∉ before.owners := by
        rw [← hstep]
        exact h.eraseOwner_iff
      have hlasting : before.Lasting (.schedulerDestroy env meId) ↔ meId ∉ before.owners := by
        constructor
        · intro hlasting howner
          rw [hlasting howner] at haccepts
          exact Bool.false_ne_true haccepts
        · exact fun hnone howner => absurd howner hnone
      refine ⟨hexact.trans hlasting.symm, fun hlast => ?_⟩
      have hafter := (hexact.trans hlasting.symm).mpr hlast
      rw [← hstep] at hafter ⊢
      exact ⟨h.wellFormed, h.ranged, hafter, fun one hone two htwo =>
        h.owner one (Finset.mem_of_mem_erase hone) two (Finset.mem_of_mem_erase htwo)⟩
  · next hfailed =>
      rw [← hstep]
      refine h.judged fun _ => ?_
      rw [← Bool.not_eq_true]
      exact fun haccepts => hfailed (schedulerDestroy_isSome.mpr haccepts)

theorem Accounted.schedulerCreate (h : before.Accounted)
    {tcontPtr trafficSchedulerPtr : BitVec 16} {policy priorityWeight : BitVec 8}
    (hstep : before.step (.schedulerCreate env meId tcontPtr trafficSchedulerPtr policy
      priorityWeight) = some after) :
    before.Judged (.schedulerCreate env meId tcontPtr trafficSchedulerPtr policy priorityWeight)
      after := by
  have hmaps : MapsShaper env before.mapper (before.outcome (.schedulerCreate env meId tcontPtr
    trafficSchedulerPtr policy priorityWeight)) :=
    @mapsShaper_schedulerCreate env meId ⟨before.mapper, []⟩ _ _ _ _ h.wellFormed
  refine Accounted.judged ?_ trivial
  rw [step] at hstep
  cases houtcome : before.outcome (.schedulerCreate env meId tcontPtr trafficSchedulerPtr policy
    priorityWeight) with
  | mk result ctx =>
      rw [houtcome] at hstep hmaps
      cases hmaps with
      | inl hsame =>
          have ⟨hmapper, hnone⟩ := hsame
          dsimp only at hmapper
          cases result with
          | none =>
              rw [← Option.some.inj hstep, hmapper]
              exact h
          | some owns =>
              have hfalse : owns = false := by
                cases owns with
                | false => rfl
                | true => exact absurd rfl hnone
              rw [← Option.some.inj hstep, hmapper, hfalse]
              exact ⟨h.wellFormed, h.ranged, h.exact, h.owner⟩
      | inr hmapped =>
          have ⟨index, hfound, hresult, hmapper⟩ := hmapped
          dsimp only at hresult hmapper
          have ⟨hwell, hranged, hpairs, hnew⟩ := h.mapShaper (Prod.ext rfl hfound)
          have hnoOwner : before.owners = ∅ := by
            rw [← Finset.not_nonempty_iff_eq_empty, ← h.exact.mapped_scheduler_iff]
            exact hnew
          rw [hresult] at hstep
          rw [← Option.some.inj hstep, hmapper]
          refine ⟨hwell, hranged, fun id => ?_, ?_⟩
          · have hexact : (id = tbsSchedulerId ∨ ∃ index, before.Mapped id index) ↔
                (∃ meId ∈ before.queues, isUpstream meId = true ∧ id = meId.setWidth 32) ∨
                  (id = tbsSchedulerId ∧ (insert meId before.owners).Nonempty) := by
              rw [h.exact id, or_left_comm, and_iff_left (Finset.insert_nonempty _ _)]
              exact or_congr_right (or_iff_left_of_imp And.left)
            exact (hpairs id).trans hexact
          · change ∀ one ∈ insert meId before.owners, ∀ two ∈ insert meId before.owners, one = two
            rw [hnoOwner]
            intro one hone two htwo
            rw [insert_empty_eq, Finset.mem_singleton] at hone htwo
            exact hone.trans htwo.symm

theorem Accounted.step (h : before.Accounted) (hstep : before.step call = some after) :
    before.Judged call after := by
  cases call with
  | queueCreate env meId relatedPort trafficSchedulerGPtr params => exact h.queueCreate hstep
  | queueUpdate env meId params =>
      exact h.unchanged rfl keepsMapper_queueUpdate rfl trivial hstep
  | queueDestroy env meId => exact h.queueDestroy hstep
  | schedulerCreate env meId tcontPtr trafficSchedulerPtr policy priorityWeight =>
      exact h.schedulerCreate hstep
  | schedulerUpdate env meId priorityWeight =>
      exact h.unchanged rfl keepsMapper_schedulerUpdate rfl trivial hstep
  | schedulerDestroy env meId => exact h.schedulerDestroy hstep

/-- While the mappings are right, what does not exist can be created. -/
theorem Accounted.creates (h : before.Accounted) (call : QueueCall) : before.Creates call := by
  cases call with
  | queueCreate env meId relatedPort trafficSchedulerGPtr params =>
      intro hnew hall hsome hroom
      have ⟨create, hcreate⟩ := Option.isSome_iff_exists.mp hsome
      have htaken : QueueTaken env meId create params := ⟨hall _, hall _, hall _, hall _⟩
      have ⟨ctx, hsame, hrun⟩ := queueCreate_of_taken hcreate htaken ⟨before.mapper, []⟩
      have hmapper : ctx.mapper = before.mapper := hsame
      rw [outcome, QueueCall.run, Program.bind_pure_apply, hrun, Option.isSome_map]
      cases hup : isUpstream meId with
      | false => rfl
      | true =>
          have ⟨hmem, hleft⟩ := hroom hup
          have hnone : ¬∃ index, before.Mapped (meId.setWidth 32) index := by
            rw [h.exact.mapped_upstream_iff hup]
            exact hnew
          have ⟨index, hfound⟩ := h.idMap_room hleft ⟨meId, rfl⟩ hnone
          rw [← hmem, ← hmapper] at hfound
          cases shaperMap_cases (hmapper ▸ h.wellFormed) env (meId.setWidth 32) with
          | inl hrefused => exact absurd (congrArg MapperReply.ret hfound) hrefused.2
          | inr hmapped =>
              have ⟨other, _, hmap⟩ := hmapped
              rw [if_pos rfl, Program.bind_apply hmap]
              exact devCtl_isSome.mpr (hall _)
  | queueUpdate env meId params => exact trivial
  | queueDestroy env meId => exact trivial
  | schedulerCreate env meId tcontPtr trafficSchedulerPtr policy priorityWeight =>
      intro hnew hall
      have ⟨ctx, hsame, hrun⟩ := @schedulerCreate_of_taken env meId ⟨before.mapper, []⟩ tcontPtr
        trafficSchedulerPtr policy priorityWeight hall
      have hmapper : ctx.mapper = before.mapper := hsame
      rw [outcome, QueueCall.run, hrun]
      by_cases hshaper : ((schedCreate meId tcontPtr trafficSchedulerPtr policy
          priorityWeight).1.useRegular && decide (meId.setWidth 8 = tbsScheduler)) = true
      · rw [if_pos hshaper, schedulerTbsCreate]
        cases shaperMap_cases (hmapper ▸ h.wellFormed) env tbsSchedulerId with
        | inl hrefused =>
            rw [hrefused.1]
            refine ⟨false, rfl, fun _ _ hnone hmem hleft => ?_⟩
            have hunmapped : ¬∃ index, before.Mapped tbsSchedulerId index := by
              rw [h.exact.mapped_scheduler_iff, hnone]
              exact Finset.not_nonempty_empty
            have ⟨index, hfound⟩ := h.idMap_room hleft ⟨0x80, rfl⟩ hunmapped
            rw [← hmem, ← hmapper] at hfound
            exact absurd (congrArg MapperReply.ret hfound) hrefused.2
        | inr hmapped =>
            have ⟨index, _, hmap⟩ := hmapped
            rw [hmap]
            exact ⟨true, rfl, fun _ _ _ _ _ => rfl⟩
      · rw [if_neg hshaper]
        refine ⟨false, rfl, fun hregular hindex => ?_⟩
        rw [hregular, decide_eq_true hindex] at hshaper
        exact absurd rfl hshaper
  | schedulerUpdate env meId priorityWeight => exact trivial
  | schedulerDestroy env meId => exact trivial

/-- The mapped shapers are those of the MEs that exist, what does not exist can be created, and
all operations on a queue are for the same hardware queue, exactly if no upstream queue and no
scheduler with a shaper is destroyed, and the device takes the shaper of every upstream queue that
it has taken. -/
theorem shapersRight_iff (maxBridgePort : BitVec 32) (calls : List QueueCall) :
    Along QueueState.step ShapersRight (init maxBridgePort) calls ↔
      Along QueueState.step (fun before call _ => before.Lasting call) (init maxBridgePort)
        calls := by
  refine along_iff_guard (fun before call after hbefore hstep => ?_)
    (accounted_init maxBridgePort) calls
  have ⟨hiff, hafter⟩ := hbefore.step hstep
  refine ⟨⟨fun hright => hiff.mp hright.exact, fun hlasting => ?_⟩, hafter⟩
  have hwell := (hafter hlasting).wellFormed
  exact {
    exact := hiff.mpr hlasting
    unshared := fun _ _ _ hone htwo => Mappers.Mapped.id_unique hwell hone htwo
    creates := hbefore.creates call
    addressed := fun meId hqueue => calls_run hqueue ⟨before.mapper, []⟩ nofun }

/-- A device that takes everything, with memory. -/
def takingEnv : QueueEnv where
  accepts _ := true
  uni2lan i := i
  gemBlkLen := 48
  equeueCfg := ⟨0, 0, 0, 0, 0, 0, 0, 0, 0, 0, 0, 0, 0, 0, 0, 0⟩
  schedulerInput := 0
  level := 0
  schedulerCfg := ⟨0, 0, 0⟩
  mem := true

/-- An upstream queue that is destroyed stays mapped, and cannot be created again. -/
theorem shapersRight_not_right : ¬∀ calls, Along QueueState.step ShapersRight (init 8) calls := by
  intro h
  have hrun := h [.queueCreate takingEnv 0x8000 0 0 ⟨1, 0, 0, 0, 0, 0, 0, 9, 0⟩,
    .queueDestroy takingEnv 0x8000, .queueCreate takingEnv 0x8000 0 0 ⟨1, 0, 0, 0, 0, 0, 0, 9, 0⟩]
  have hgone : (0x8000 : BitVec 16) ∉ ((insert 0x8000 ∅ : Finset (BitVec 16)).erase 0x8000) :=
    Finset.notMem_erase _ _
  have hfree : ∀ id m, Mappers.mapperGet
      ((Mappers.init 8).idMap MapperIdType.pqueueMeidToTbsIdx 0x8000 true).1
        MapperIdType.pqueueMeidToTbsIdx = some m → ⟨id, 1⟩ ∉ m.list .id := by
    intro id m hget hitem
    rw [← Option.some.inj hget] at hitem
    have hindex : (1 : BitVec 32) = 0 := congrArg MapperItem.index (List.mem_singleton.mp hitem)
    exact absurd hindex (by decide)
  have hcreated := hrun.2.2.1.creates hgone (fun _ => rfl) rfl
    fun _ => ⟨rfl, 1, by decide, fun id hmapped =>
      have ⟨m, hget, hitem⟩ := hmapped
      hfree id m hget hitem⟩
  exact Bool.false_ne_true hcreated

end QueueState

end FalconGpon.Api
