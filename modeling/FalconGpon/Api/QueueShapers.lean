/-
# Token bucket shapers of queues and schedulers

An upstream priority queue gets a token bucket shaper of the hardware when it is created, and so
does the scheduler 0x43 if it is connected to its port. The id mapper keeps which shaper it is.
Destruction looks the shaper up and deletes it in the hardware.

The calls of the device are recorded in the order in which an operation makes them. An operation
fails where it returns an error.
-/

import Mathlib.Data.Finset.Basic
import FalconGpon.Api.MapperPairs
import FalconGpon.Lib.Program

namespace FalconGpon.Api

open FalconGpon.Lib

/-- `struct gpe_equeue_create`. -/
structure EqueueCreate where
  index : BitVec 32
  egressPortNumber : BitVec 32
  schedulerInput : BitVec 32
deriving DecidableEq

/-- `struct gpe_equeue_cfg`. -/
structure EqueueCfg where
  index : BitVec 32
  enable : BitVec 32
  sbinEnable : BitVec 32
  weight : BitVec 32
  wredEnable : BitVec 32
  avgWeight : BitVec 32
  size : BitVec 32
  reservationThreshold : BitVec 32
  dropThresholdRed : BitVec 32
  dropThresholdGreenMax : BitVec 32
  dropThresholdGreenMin : BitVec 32
  dropThresholdYellowMax : BitVec 32
  dropThresholdYellowMin : BitVec 32
  dropProbabilityGreen : BitVec 32
  dropProbabilityYellow : BitVec 32
  coloringMode : BitVec 32
deriving DecidableEq

/-- `struct gpe_token_bucket_shaper`. -/
structure TokenBucketShaper where
  index : BitVec 32
  tbsSchedulerBlockInput : BitVec 32
deriving DecidableEq

/-- `struct gpe_sched_create`. -/
structure SchedCreate where
  index : BitVec 32
  useTcont : Bool
  level : BitVec 32
  schedulerId : BitVec 32
  portIdx : BitVec 32
  connectedSchedulerIndex : BitVec 32
  useRegular : Bool
  schedulerPolicy : BitVec 32
  priorityWeight : BitVec 32
deriving DecidableEq

/-- `struct gpe_scheduler_cfg`. -/
structure SchedulerCfg where
  index : BitVec 32
  outputEnable : BitVec 32
  weight : BitVec 32
deriving DecidableEq

/-- The calls of the device, with what they are given. -/
inductive QueueIoctl
  | egressQueueCreate (create : EqueueCreate)
  | gpeCfgGet
  | egressQueueCfgGet (index : BitVec 8)
  | egressQueueCfgSet (cfg : EqueueCfg)
  | egressQueueGet (index : BitVec 8)
  | egressQueueDelete (index : BitVec 8)
  | tokenBucketShaperCreate (tbs : TokenBucketShaper)
  | tokenBucketShaperDelete (tbs : TokenBucketShaper)
  | schedulerGet (index : BitVec 32)
  | schedulerCreate (create : SchedCreate)
  | egressPortEnable (epn : BitVec 8)
  | schedulerDelete (index : BitVec 8)
  | schedulerCfgGet (index : BitVec 8)
  | schedulerCfgSet (cfg : SchedulerCfg)
deriving DecidableEq

/-- What the device and the memory answer to an operation. -/
structure QueueEnv where
  /-- A call of the device succeeds. -/
  accepts : QueueIoctl → Bool
  /-- `ctx->uni2lan`. -/
  uni2lan : Fin 4 → Int
  gemBlkLen : BitVec 32
  /-- The answer of `FIO_GPE_EGRESS_QUEUE_CFG_GET`. -/
  equeueCfg : EqueueCfg
  /-- The answer of `FIO_GPE_EGRESS_QUEUE_GET`. -/
  schedulerInput : BitVec 32
  /-- The answer of `FIO_GPE_SCHEDULER_GET`. -/
  level : BitVec 32
  /-- The answer of `FIO_GPE_SCHEDULER_CFG_GET`. -/
  schedulerCfg : SchedulerCfg
  mem : Bool

/-- The attributes of a priority queue that `omci_api_priority_queue_update` uses. -/
structure QueueParams where
  weight : BitVec 8
  packetDropQueueThresholdGreenMin : BitVec 16
  packetDropQueueThresholdGreenMax : BitVec 16
  packetDropQueueThresholdYellowMin : BitVec 16
  packetDropQueueThresholdYellowMax : BitVec 16
  packetDropProbabilityGreen : BitVec 8
  packetDropProbabilityYellow : BitVec 8
  queueDropAveragingCoefficient : BitVec 8
  dropPrecedenceColorMarking : BitVec 8

/-- The mapper and the calls of the device that were made. -/
structure QueueCtx where
  mapper : Mappers
  calls : List QueueIoctl

abbrev QueueProgram := Program QueueCtx

def QueueCtx.record (ctx : QueueCtx) (call : QueueIoctl) : QueueCtx :=
  { ctx with calls := ctx.calls ++ [call] }

/-- `dev_ctl`. -/
def devCtl (env : QueueEnv) (call : QueueIoctl) : QueueProgram Unit :=
  fun ctx => (if env.accepts call then some () else none, ctx.record call)

/-- `id_map` of a shaper. -/
def shaperMap (env : QueueEnv) (id : BitVec 32) : QueueProgram (BitVec 32) := fun ctx =>
  let mapped := ctx.mapper.idMap MapperIdType.pqueueMeidToTbsIdx id env.mem
  (if mapped.2.ret = .success then mapped.2.key else none, { ctx with mapper := mapped.1 })

/-- `index_get` of a shaper. -/
def shaperGet (id : BitVec 32) : QueueProgram (Option (BitVec 32)) := fun ctx =>
  let found := ctx.mapper.indexGet MapperIdType.pqueueMeidToTbsIdx id
  (some (if found.ret = .success then found.key else none), ctx)

/-! ## Priority queues -/

def isUpstream (meId : BitVec 16) : Bool :=
  meId &&& 0x8000 ≠ 0

/-- `ONU_GPE_SCHEDULER_INDEX_TCONT`. -/
def onuGpeSchedulerIndexTcont : BitVec 8 := 125 - 32

/-- `ONU_GPE_UNI3_EGRESS_PORT_NUMBER`. -/
def onuGpeUni3EgressPortNumber : BitVec 32 := 67

/-- `omci_api_uni2lan`: the first port with the low byte of the ME id. -/
def uni2lan (env : QueueEnv) (meId : BitVec 16) : Option (Fin 4) :=
  Fin.find? fun i => env.uni2lan i = (meId &&& 0xff).toNat

def dropThreshold (env : QueueEnv) (threshold : BitVec 16) : BitVec 32 :=
  (threshold.setWidth 32 * env.gemBlkLen) >>> 9

def dropProbability (probability : BitVec 8) : BitVec 32 :=
  let p : BitVec 32 := probability.setWidth 32
  p * 16 + (15 * p + 255) / 256

/-- The hardware queue of an ME in `omci_api_priority_queue_update` and `_destroy`. -/
def queueIndex (meId : BitVec 16) : BitVec 8 :=
  (meId &&& 0x7fff).setWidth 8

/-- The configuration of `FIO_GPE_EGRESS_QUEUE_CFG_SET`; `FIO_GPE_EGRESS_QUEUE_CFG_GET` is taken to
leave the index as it was asked for. -/
def queueCfg (env : QueueEnv) (meId : BitVec 16) (params : QueueParams) : EqueueCfg :=
  { env.equeueCfg with
    index := (queueIndex meId).setWidth 32
    enable := 1
    sbinEnable := 1
    weight := params.weight.setWidth 32
    avgWeight :=
      if 14 < params.queueDropAveragingCoefficient then 3
      else params.queueDropAveragingCoefficient.setWidth 32
    dropThresholdGreenMin := dropThreshold env params.packetDropQueueThresholdGreenMin
    dropThresholdGreenMax := dropThreshold env params.packetDropQueueThresholdGreenMax
    dropThresholdYellowMin := dropThreshold env params.packetDropQueueThresholdYellowMin
    dropThresholdYellowMax := dropThreshold env params.packetDropQueueThresholdYellowMax
    dropProbabilityGreen := dropProbability params.packetDropProbabilityGreen
    dropProbabilityYellow := dropProbability params.packetDropProbabilityYellow
    coloringMode := params.dropPrecedenceColorMarking.setWidth 32
    reservationThreshold := 0x28 }

/-- `omci_api_priority_queue_update`. -/
def omciApiPriorityQueueUpdate (env : QueueEnv) (meId : BitVec 16) (params : QueueParams) :
    QueueProgram Unit := do
  devCtl env .gpeCfgGet
  devCtl env (.egressQueueCfgGet (queueIndex meId))
  devCtl env (.egressQueueCfgSet (queueCfg env meId params))

/-- The queue of `FIO_GPE_EGRESS_QUEUE_CREATE` in `omci_api_priority_queue_create`; a downstream
queue needs a LAN port for its UNI. -/
def equeueCreate (env : QueueEnv) (meId : BitVec 16) (relatedPort : BitVec 32)
    (trafficSchedulerGPtr : BitVec 16) : Option EqueueCreate :=
  let qid := meId &&& 0xff
  let leaf : BitVec 8 := (relatedPort &&& 7).setWidth 8
  let epn : BitVec 8 := (relatedPort >>> 16).setWidth 8
  let sbid : BitVec 8 :=
    if isUpstream meId && trafficSchedulerGPtr = 0 then onuGpeSchedulerIndexTcont + epn
    else (trafficSchedulerGPtr &&& 0x7f).setWidth 8
  let schedulerInput : BitVec 32 := sbid.setWidth 32 <<< 3 + leaf.setWidth 32
  if isUpstream meId then
    some ⟨(qid.setWidth 8 : BitVec 8).setWidth 32, epn.setWidth 32, schedulerInput⟩
  else
    (uni2lan env ((relatedPort >>> 16).setWidth 16)).map fun lan =>
      ⟨(qid.setWidth 8 : BitVec 8).setWidth 32, onuGpeUni3EgressPortNumber - BitVec.ofNat 32 lan,
        schedulerInput⟩

/-- `omci_api_priority_queue_create`. -/
def omciApiPriorityQueueCreate (env : QueueEnv) (meId : BitVec 16) (relatedPort : BitVec 32)
    (trafficSchedulerGPtr : BitVec 16) (params : QueueParams) : QueueProgram Unit :=
  match equeueCreate env meId relatedPort trafficSchedulerGPtr with
  | none => Program.fail
  | some create => do
      devCtl env (.egressQueueCreate create)
      omciApiPriorityQueueUpdate env meId params
      if isUpstream meId then do
        let tbsIdx ← shaperMap env (meId.setWidth 32)
        devCtl env (.tokenBucketShaperCreate ⟨tbsIdx, create.schedulerInput⟩)
      else pure ()

/-- Delete a shaper in the hardware; whether the device does is not asked for. -/
def shaperDelete (env : QueueEnv) (tbsIdx : Option (BitVec 32)) (schedulerInput : BitVec 32) :
    QueueProgram Unit :=
  match tbsIdx with
  | some tbsIdx => (devCtl env (.tokenBucketShaperDelete ⟨tbsIdx, schedulerInput⟩)).attempt
  | none => pure ()

/-- `omci_api_priority_queue_destroy`. -/
def omciApiPriorityQueueDestroy (env : QueueEnv) (meId : BitVec 16) : QueueProgram Unit := do
  devCtl env (.egressQueueGet (queueIndex meId))
  let tbsIdx ← shaperGet (meId.setWidth 32)
  shaperDelete env tbsIdx env.schedulerInput
  devCtl env (.egressQueueDelete (queueIndex meId))

/-! ## Traffic schedulers -/

def tbsScheduler : BitVec 8 := 0x43

def tbsSchedulerId : BitVec 32 := 0x80

def tbsSchedulerInput : BitVec 32 := 0x218

/-- The scheduler of `FIO_GPE_SCHEDULER_CREATE` in `omci_api_traffic_scheduler_create`, before its
level is known, and whether it is connected to a T-CONT. -/
def schedCreate (meId tcontPtr trafficSchedulerPtr : BitVec 16)
    (policy priorityWeight : BitVec 8) : SchedCreate × Bool :=
  let schedulerIndex : BitVec 8 := meId.setWidth 8
  let epn : BitVec 8 := tcontPtr.setWidth 8
  let create : SchedCreate :=
    ⟨schedulerIndex.setWidth 32, false, 0, meId.setWidth 32, 0, 0, false,
      policy.setWidth 32, priorityWeight.setWidth 32⟩
  if trafficSchedulerPtr ≠ 0 ∧ trafficSchedulerPtr ≠ 0xffff then
    ({ create with connectedSchedulerIndex := (trafficSchedulerPtr &&& 0xff).setWidth 32 }, false)
  else if tcontPtr ≠ 0 ∧ tcontPtr ≠ 0xffff then
    ({ create with connectedSchedulerIndex :=
        onuGpeSchedulerIndexTcont.setWidth 32 + epn.setWidth 32 }, true)
  else
    ({ create with useRegular := true, portIdx := schedulerIndex.setWidth 32 }, false)

/-- The calls after `sched_delete`, whose answer is not asked for. -/
def schedDelete (env : QueueEnv) (schedulerIndex : BitVec 8) : QueueProgram Unit := do
  (devCtl env (.schedulerDelete schedulerIndex)).attempt
  Program.fail

/-- Map a shaper for the scheduler 0x43 and create it in the hardware; whether the device does is
not asked for. -/
def schedulerTbsCreate (env : QueueEnv) : QueueProgram Bool := fun ctx =>
  match shaperMap env tbsSchedulerId ctx with
  | (some tbsIdx, ctx) =>
      (some true, (devCtl env (.tokenBucketShaperCreate ⟨tbsIdx, tbsSchedulerInput⟩) ctx).2)
  | (none, ctx) => (some false, ctx)

def onlyIf (p : Bool) (x : QueueProgram Unit) : QueueProgram Unit :=
  if p then x else pure ()

def egressPortEnable (env : QueueEnv) (ani : Bool) (epn : BitVec 8) : QueueProgram Bool :=
  if ani then (devCtl env (.egressPortEnable epn)).succeeds else pure true

/-- `omci_api_traffic_scheduler_create`, with whether it has mapped a shaper. -/
def omciApiTrafficSchedulerCreate (env : QueueEnv) (meId tcontPtr trafficSchedulerPtr : BitVec 16)
    (policy priorityWeight : BitVec 8) : QueueProgram Bool := do
  let schedulerIndex : BitVec 8 := meId.setWidth 8
  let sched := schedCreate meId tcontPtr trafficSchedulerPtr policy priorityWeight
  onlyIf (!sched.1.useRegular) (devCtl env (.schedulerGet sched.1.connectedSchedulerIndex))
  let level := if sched.1.useRegular then 0 else env.level + 1
  let created ← (devCtl env (.schedulerCreate { sched.1 with level := level })).succeeds
  onlyIf (!created) (schedDelete env schedulerIndex)
  let enabled ← egressPortEnable env sched.2 (tcontPtr.setWidth 8)
  onlyIf (!enabled) (schedDelete env schedulerIndex)
  if sched.1.useRegular && schedulerIndex = tbsScheduler then schedulerTbsCreate env
  else return false

/-- `omci_api_traffic_scheduler_destroy`. -/
def omciApiTrafficSchedulerDestroy (env : QueueEnv) (meId : BitVec 16) : QueueProgram Unit := do
  onlyIf (meId &&& 0x7f = tbsScheduler.setWidth 16) do
    let tbsIdx ← shaperGet tbsSchedulerId
    shaperDelete env tbsIdx tbsSchedulerInput
  devCtl env (.schedulerDelete (meId.setWidth 8))

/-- `omci_api_traffic_scheduler_update`. -/
def omciApiTrafficSchedulerUpdate (env : QueueEnv) (meId : BitVec 16) (priorityWeight : BitVec 8) :
    QueueProgram Unit := do
  let schedulerIndex : BitVec 8 := meId.setWidth 8
  devCtl env (.schedulerCfgGet schedulerIndex)
  devCtl env (.schedulerCfgSet { env.schedulerCfg with
    index := schedulerIndex.setWidth 32
    weight := priorityWeight.setWidth 32 })

end FalconGpon.Api
