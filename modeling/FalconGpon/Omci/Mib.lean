/-
# The MIB: creating and deleting managed entities

`omci_mib.c`. The MIB keeps one list of managed entities for each class, sorted
by instance identifier, and counts all entries; internal PM entities are also on
the PM list. `mib_me_create` acquires what the entity needs step by step, each of
which can fail, runs the class's init handler and links the entity.

The allocator and the lock library are an oracle in the context: `supply` says for
each kind of resource which of the coming requests are granted. A record that is
freed while a list still holds it stays there with `live` cleared.

Init and shutdown handlers may create and delete entities of slave classes. A class
table gives each class a rank above those of its slaves, so calls for a class nest
no deeper than its rank: `mibOps` unrolls the recursion, and `mibMeCreate_eq` and
`mibMeDelete_eq` state it without the unrolling.
-/

import FalconGpon.Lib.Ascending
import FalconGpon.Omci.Me

namespace FalconGpon.Omci

open FalconGpon.Lib

variable {ω : Type}

/-- What is asked from the system. -/
inductive Resource
  | meEntry
  | alarmBitmap
  | arcContext
  | meData
  | pmContext
  | pmHist
  | pmAbs
  | meLock
  | pmListEntry
  | mibCopyEntry
deriving DecidableEq

/-- The part of `struct omci_context` the MIB functions work on. -/
structure Context (ω : Type) where
  /-- `mib.me_class_array[..].me_list`, by class identifier. -/
  meList : ClassId → List MeEntry
  /-- `mib.me_count`. -/
  meCount : Nat
  /-- `pm.list`. -/
  pmList : List MeRef
  /-- The next address the allocator hands out. -/
  nextRef : MeRef
  /-- Which of the coming requests are granted. -/
  supply : Resource → Nat → Bool
  store : Store ω

/-- The class table: `me_def_class_array`. A second array entry for the same class
is never found and stays empty, so a table lists each class once. -/
structure ClassTable (ω : Type) where
  classes : List (MeClass ω)
  nodup : (classes.map MeClass.classId).Nodup
  /-- How deep the handlers of a class nest their calls. -/
  rank : ClassId → Nat
  initSlaves : ∀ cls ∈ classes, ∀ init, cls.init = some init → ∀ me inst data avc,
    (init me inst data avc).Only fun id => rank id < rank cls.classId
  shutdownSlaves : ∀ cls ∈ classes, ∀ shutdown, cls.shutdown = some shutdown →
    ∀ me inst, (shutdown me inst).Only fun id => rank id < rank cls.classId

def ClassTable.ids (table : ClassTable ω) : List ClassId :=
  table.classes.map MeClass.classId

def ClassTable.Slave (table : ClassTable ω) (classId id : ClassId) : Prop :=
  table.rank id < table.rank classId

/-- `class_entry_find`, by the binary search in the sorted class array. -/
def ClassTable.classEntryFind (table : ClassTable ω) (classId : ClassId) : Option (MeClass ω) :=
  table.classes.find? fun cls => cls.classId == classId

/-- A MIB without entities, with the resources to come. -/
def Context.empty (supply : Resource → Nat → Bool) (store : Store ω) : Context ω where
  meList _ := []
  meCount := 0
  pmList := []
  nextRef := 0
  supply := supply
  store := store

namespace Context

/-- Ask for a resource. -/
def request (ctx : Context ω) (resource : Resource) : Context ω × Bool :=
  ({ ctx with
      supply := fun other n =>
        if other = resource then ctx.supply other (n + 1) else ctx.supply other n },
    ctx.supply resource 0)

def setMeList (ctx : Context ω) (classId : ClassId) (list : List MeEntry) : Context ω :=
  { ctx with meList := Function.update ctx.meList classId list }

def handlerStore (ctx : Context ω) : Store ω := { ctx.store with meList := ctx.meList }

@[simp]
theorem handlerStore_me (ctx : Context ω) : ctx.handlerStore.me = ctx.store.me := rfl

end Context

/-- `mib_me_find`. -/
def mibMeFind (table : ClassTable ω) (ctx : Context ω) (classId : ClassId)
    (instanceId : InstanceId) : Except OmciError MeRef :=
  match table.classEntryFind classId with
  | none => .error .meNotFound
  | some _ =>
      match findAscending MeEntry.key instanceId.toNat (ctx.meList classId) with
      | some entry => .ok entry.ref
      | none => .error .meNotFound

/-- The walk of `mib_me_add_to_class_entry` behind the first entry. -/
def insertBehind (entry : MeEntry) : List MeEntry → List MeEntry
  | [] => [entry]
  | next :: rest =>
      if next.instanceId < entry.instanceId then next :: insertBehind entry rest
      else entry :: next :: rest

/-- `mib_me_add_to_class_entry`. -/
def mibMeAddToClassEntry (entry : MeEntry) : List MeEntry → List MeEntry
  | [] => [entry]
  | first :: rest =>
      if entry.instanceId < first.instanceId then entry :: first :: rest
      else first :: insertBehind entry rest

/-- The nested calls a handler script makes. -/
structure MibOps (ω : Type) where
  create : Context ω → Bool → ClassId → InstanceId → Option (List Byte) → AttrMask →
    Context ω × OmciError × Option MeRef
  delete : Context ω → ClassId → InstanceId → Context ω × OmciError

/-- Run a handler. -/
def Script.run (table : ClassTable ω) (ops : MibOps ω) :
    Script ω → Context ω → Context ω × OmciError
  | .done err, ctx => (ctx, err)
  | .work handle next, ctx =>
      let (store, err) := handle ctx.handlerStore
      (next err).run table ops { ctx with store := store }
  | .find classId instanceId next, ctx =>
      (next (mibMeFind table ctx classId instanceId).toOption).run table ops ctx
  | .create active classId instanceId initData suppressAvc next, ctx =>
      let (ctx, err, me) := ops.create ctx active classId instanceId initData suppressAvc
      (next err me).run table ops ctx
  | .delete classId instanceId next, ctx =>
      let (ctx, err) := ops.delete ctx classId instanceId
      (next err).run table ops ctx

/-! ## mib_me_create -/

/-- Ask for a resource if it is needed; `code` is what `mib_me_create` returns if
it is denied. -/
def acquire (needed : Bool) (resource : Resource) (code : OmciError) (ctx : Context ω) :
    Context ω × Option OmciError :=
  if needed then
    let (ctx, granted) := ctx.request resource
    (ctx, if granted then none else some code)
  else (ctx, none)

/-- `pm_me_context_alloc`. -/
def pmMeContextAlloc (cls : MeClass ω) (ctx : Context ω) : Context ω × Option OmciError :=
  if hasProp cls.prop MeProp.pmInternal then
    let (ctx, pm) := ctx.request .pmContext
    if pm then
      let (ctx, hist) := ctx.request .pmHist
      let (ctx, abs) := ctx.request .pmAbs
      (ctx, if cls.dataSize != 0 && hist && abs then none else some .memory)
    else (ctx, some .memory)
  else (ctx, none)

/-- Acquire one thing after the other; what was acquired is released again as
soon as one is denied. -/
def acquireAll : List (Context ω → Context ω × Option OmciError) → Context ω →
    Context ω × Option OmciError
  | [], ctx => (ctx, none)
  | step :: steps, ctx =>
      match step ctx with
      | (ctx, none) => acquireAll steps ctx
      | (ctx, some code) => (ctx, some code)

/-- From the allocation of the record to the initialisation of its lock. When the
data is denied, `error` still holds the success of the step before. -/
def meResources (cls : MeClass ω) : List (Context ω → Context ω × Option OmciError) :=
  [acquire true .meEntry .memory,
    acquire (hasProp cls.prop MeProp.hasAlarms) .alarmBitmap .memory,
    acquire (hasProp cls.prop MeProp.hasArc) .arcContext .memory,
    acquire (cls.dataSize != 0) .meData .success,
    pmMeContextAlloc cls,
    acquire true .meLock .error]

/-- The record of a new managed entity, with its data zeroed. -/
def MeData.blank : MeData where
  isInitialized := false
  buffer _ _ := 0
  data := 0
  curr := 0
  hist := 1
  abs := 2

/-- Call the init handler, if there is one; inactive entities skip it. -/
def callInit (table : ClassTable ω) (ops : MibOps ω) (cls : MeClass ω) (active : Bool)
    (ref : MeRef) (instanceId : InstanceId) (initData : Option (List Byte))
    (suppressAvc : AttrMask) (ctx : Context ω) : Context ω × OmciError :=
  match cls.init with
  | some init =>
      if active then (init ref instanceId initData suppressAvc).run table ops ctx
      else (ctx, .success)
  | none => (ctx, .success)

/-- Call the shutdown handler, if there is one; inactive entities skip it. -/
def callShutdown (table : ClassTable ω) (ops : MibOps ω) (cls : MeClass ω) (active : Bool)
    (ref : MeRef) (instanceId : InstanceId) (ctx : Context ω) : Context ω :=
  match cls.shutdown with
  | some shutdown =>
      if active then ((shutdown ref instanceId).run table ops ctx).1 else ctx
  | none => ctx

/-- Take an address for the new record and clear it. -/
def Context.newMe (ctx : Context ω) : Context ω :=
  { ctx with
    nextRef := ctx.nextRef + 1
    store := ctx.store.setMe ctx.nextRef .blank }

/-- Set `is_initialized`, link the entry and count it. -/
def Context.link (ctx : Context ω) (cls : MeClass ω) (entry : MeEntry) : Context ω :=
  { ctx with
    meList := Function.update ctx.meList cls.classId
      (mibMeAddToClassEntry entry (ctx.meList cls.classId))
    meCount := ctx.meCount + 1
    store := ctx.store.setMe entry.ref
      { ctx.store.me entry.ref with isInitialized := true } }

@[simp]
theorem Context.link_meList (ctx : Context ω) (cls : MeClass ω) (entry : MeEntry) :
    (ctx.link cls entry).meList = Function.update ctx.meList cls.classId
      (mibMeAddToClassEntry entry (ctx.meList cls.classId)) := rfl

@[simp]
theorem Context.link_meCount (ctx : Context ω) (cls : MeClass ω) (entry : MeEntry) :
    (ctx.link cls entry).meCount = ctx.meCount + 1 := rfl

/-- `pm_me_add`. -/
def pmMeAdd (cls : MeClass ω) (ref : MeRef) (ctx : Context ω) : Context ω × OmciError :=
  if hasProp cls.prop MeProp.pmInternal then
    let (ctx, granted) := ctx.request .pmListEntry
    if granted then ({ ctx with pmList := ctx.pmList ++ [ref] }, .success)
    else (ctx, .memory)
  else (ctx, .success)

def Context.freeLinked (ctx : Context ω) (classId : ClassId) (ref : MeRef) : Context ω :=
  ctx.setMeList classId ((ctx.meList classId).map fun entry =>
    if entry.ref = ref then { entry with live := false } else entry)

@[simp]
theorem Context.freeLinked_meList (ctx : Context ω) (classId : ClassId) (ref : MeRef) :
    (ctx.freeLinked classId ref).meList = Function.update ctx.meList classId
      ((ctx.meList classId).map fun entry =>
        if entry.ref = ref then { entry with live := false } else entry) := rfl

@[simp]
theorem Context.freeLinked_meCount (ctx : Context ω) (classId : ClassId) (ref : MeRef) :
    (ctx.freeLinked classId ref).meCount = ctx.meCount := rfl

/-- `mib_me_create` once the class is known and the entity is known not to
exist. -/
def meCreate (table : ClassTable ω) (ops : MibOps ω) (cls : MeClass ω) (ctx : Context ω)
    (active : Bool) (instanceId : InstanceId) (initData : Option (List Byte))
    (suppressAvc : AttrMask) : Context ω × OmciError × Option MeRef :=
  match acquireAll (meResources cls) ctx with
  | (ctx, some code) => (ctx, code, none)
  | (ctx, none) =>
      let ref := ctx.nextRef
      let ctx := ctx.newMe
      let (ctx, err) :=
        callInit table ops cls active ref instanceId initData suppressAvc ctx
      if err != .success then
        (callShutdown table ops cls active ref instanceId ctx, err, none)
      else
        let ctx := ctx.link cls
          { ref := ref, instanceId := instanceId, active := active, live := true }
        let (ctx, err) := pmMeAdd cls ref ctx
        if err != .success then
          let ctx := callShutdown table ops cls active ref instanceId ctx
          (ctx.freeLinked cls.classId ref, err, some ref)
        else (ctx, .success, some ref)

/-- `mib_me_create`, with the calls its handlers make as a parameter. -/
def mibMeCreateWith (table : ClassTable ω) (ops : MibOps ω) (ctx : Context ω)
    (active : Bool) (classId : ClassId) (instanceId : InstanceId)
    (initData : Option (List Byte)) (suppressAvc : AttrMask) :
    Context ω × OmciError × Option MeRef :=
  match mibMeFind table ctx classId instanceId with
  | .ok _ => (ctx, .meExists, none)
  | .error _ =>
      match table.classEntryFind classId with
      | none => (ctx, .meNotSupported, none)
      | some cls => meCreate table ops cls ctx active instanceId initData suppressAvc

/-! ## mib_me_delete -/

/-- `pm_me_remove`. -/
def pmMeRemove (cls : MeClass ω) (ref : MeRef) (ctx : Context ω) : Context ω :=
  if hasProp cls.prop MeProp.pmInternal then { ctx with pmList := ctx.pmList.erase ref }
  else ctx

/-- Unlink an entry and count it out. -/
def Context.unlink (ctx : Context ω) (cls : MeClass ω) (entry : MeEntry) : Context ω :=
  { ctx with
    meList := Function.update ctx.meList cls.classId ((ctx.meList cls.classId).erase entry)
    meCount := ctx.meCount - 1 }

@[simp]
theorem Context.unlink_meList (ctx : Context ω) (cls : MeClass ω) (entry : MeEntry) :
    (ctx.unlink cls entry).meList = Function.update ctx.meList cls.classId
      ((ctx.meList cls.classId).erase entry) := rfl

@[simp]
theorem Context.unlink_meCount (ctx : Context ω) (cls : MeClass ω) (entry : MeEntry) :
    (ctx.unlink cls entry).meCount = ctx.meCount - 1 := rfl

/-- `mib_me_delete`, with the calls its handlers make as a parameter. -/
def mibMeDeleteWith (table : ClassTable ω) (ops : MibOps ω) (ctx : Context ω)
    (classId : ClassId) (instanceId : InstanceId) : Context ω × OmciError :=
  match table.classEntryFind classId with
  | none => (ctx, .meNotFound)
  | some cls =>
      match (ctx.meList classId).find? fun entry => entry.instanceId == instanceId with
      | none => (ctx, .meNotFound)
      | some entry =>
          let ctx := pmMeRemove cls entry.ref ctx
          let ctx := callShutdown table ops cls entry.active entry.ref instanceId ctx
          (ctx.unlink cls entry, .success)

/-- The calls that can nest `depth` deep. -/
def mibOps (table : ClassTable ω) : Nat → MibOps ω
  | 0 =>
      { create := fun ctx _ _ _ _ _ => (ctx, .meNotSupported, none)
        delete := fun ctx _ _ => (ctx, .meNotFound) }
  | depth + 1 =>
      { create := mibMeCreateWith table (mibOps table depth)
        delete := mibMeDeleteWith table (mibOps table depth) }

/-- `mib_me_create`. -/
def mibMeCreate (table : ClassTable ω) (ctx : Context ω) (active : Bool) (classId : ClassId)
    (instanceId : InstanceId) (initData : Option (List Byte)) (suppressAvc : AttrMask) :
    Context ω × OmciError × Option MeRef :=
  mibMeCreateWith table (mibOps table (table.rank classId)) ctx active classId instanceId
    initData suppressAvc

/-- `mib_me_delete`, for the entity that the given one names. -/
def mibMeDelete (table : ClassTable ω) (ctx : Context ω) (classId : ClassId)
    (instanceId : InstanceId) : Context ω × OmciError :=
  mibMeDeleteWith table (mibOps table (table.rank classId)) ctx classId instanceId

/-! ## The recursion of the source -/

/-- The nested calls for the given classes are the same. -/
def MibOps.AgreeOn (classes : ClassId → Prop) (ops ops' : MibOps ω) : Prop :=
  ∀ id, classes id →
    (∀ ctx active inst data avc,
      ops.create ctx active id inst data avc = ops'.create ctx active id inst data avc) ∧
    (∀ ctx inst, ops.delete ctx id inst = ops'.delete ctx id inst)

section Recursion

variable {table : ClassTable ω} {ops ops' : MibOps ω}

theorem Script.run_congr {classes : ClassId → Prop} (hops : ops.AgreeOn classes ops')
    {script : Script ω} (hscript : script.Only classes) (ctx : Context ω) :
    script.run table ops ctx = script.run table ops' ctx := by
  induction script generalizing ctx with
  | done err => rfl
  | work handle next ih => exact ih _ (hscript _) _
  | find classId inst next ih => exact ih _ (hscript _) ctx
  | create active classId inst data avc next ih =>
      rw [Script.run, Script.run, (hops classId hscript.1).1]
      exact ih _ _ (hscript.2 _ _) _
  | delete classId inst next ih =>
      rw [Script.run, Script.run, (hops classId hscript.1).2]
      exact ih _ (hscript.2 _) _

theorem callInit_congr {cls : MeClass ω} (hcls : cls ∈ table.classes)
    (hops : ops.AgreeOn (table.Slave cls.classId) ops') (active : Bool)
    (ref : MeRef) (inst : InstanceId) (data : Option (List Byte)) (avc : AttrMask)
    (ctx : Context ω) :
    callInit table ops cls active ref inst data avc ctx =
      callInit table ops' cls active ref inst data avc ctx := by
  rw [callInit, callInit]
  split
  · rename_i init hinit
    rw [Script.run_congr hops (table.initSlaves cls hcls init hinit ref inst data avc)]
  · rfl

theorem callShutdown_congr {cls : MeClass ω} (hcls : cls ∈ table.classes)
    (hops : ops.AgreeOn (table.Slave cls.classId) ops') (active : Bool)
    (ref : MeRef) (inst : InstanceId) (ctx : Context ω) :
    callShutdown table ops cls active ref inst ctx =
      callShutdown table ops' cls active ref inst ctx := by
  rw [callShutdown, callShutdown]
  split
  · rename_i shutdown hshutdown
    rw [Script.run_congr hops (table.shutdownSlaves cls hcls shutdown hshutdown ref inst)]
  · rfl

/-- What `class_entry_find` finds. -/
theorem ClassTable.classEntryFind_eq_some {classId : ClassId} {cls : MeClass ω}
    (h : table.classEntryFind classId = some cls) :
    cls ∈ table.classes ∧ cls.classId = classId := by
  rw [ClassTable.classEntryFind] at h
  exact ⟨List.mem_of_find?_eq_some h, by simpa using List.find?_some h⟩

theorem mibMeCreateWith_congr {classId : ClassId}
    (hops : ops.AgreeOn (table.Slave classId) ops') (ctx : Context ω)
    (active : Bool) (inst : InstanceId) (data : Option (List Byte)) (avc : AttrMask) :
    mibMeCreateWith table ops ctx active classId inst data avc =
      mibMeCreateWith table ops' ctx active classId inst data avc := by
  rw [mibMeCreateWith, mibMeCreateWith]
  cases hclass : table.classEntryFind classId with
  | none => rfl
  | some cls =>
      obtain ⟨hcls, rfl⟩ := ClassTable.classEntryFind_eq_some hclass
      simp only [meCreate, callInit_congr hcls hops, callShutdown_congr hcls hops]

theorem mibMeDeleteWith_congr {classId : ClassId}
    (hops : ops.AgreeOn (table.Slave classId) ops') (ctx : Context ω) (inst : InstanceId) :
    mibMeDeleteWith table ops ctx classId inst =
      mibMeDeleteWith table ops' ctx classId inst := by
  rw [mibMeDeleteWith, mibMeDeleteWith]
  cases hclass : table.classEntryFind classId with
  | none => rfl
  | some cls =>
      obtain ⟨hcls, rfl⟩ := ClassTable.classEntryFind_eq_some hclass
      simp only [callShutdown_congr hcls hops]

/-- Calls for the slaves of a class do not use levels above its rank. -/
theorem mibOps_agreeOn (table : ClassTable ω) (depth : Nat) (classId : ClassId)
    (hdepth : table.rank classId ≤ depth) :
    (mibOps table depth).AgreeOn (table.Slave classId) (mibOps table (depth + 1)) := by
  induction depth generalizing classId with
  | zero =>
      intro id hid
      have hlt : table.rank id < 0 := Nat.lt_of_lt_of_le hid hdepth
      exact absurd hlt (Nat.not_lt_zero _)
  | succ depth ih =>
      intro id hid
      have hagree := ih id (Nat.le_of_lt_succ (Nat.lt_of_lt_of_le hid hdepth))
      constructor
      · intro ctx active inst data avc
        exact mibMeCreateWith_congr hagree ctx active inst data avc
      · intro ctx inst
        exact mibMeDeleteWith_congr hagree ctx inst

def mibCalls (table : ClassTable ω) : MibOps ω where
  create := mibMeCreate table
  delete := mibMeDelete table

/-- Any level from its rank on will do for a class. -/
theorem mibOps_eq_of_rank_le (table : ClassTable ω) (classId : ClassId) {depth : Nat}
    (hdepth : table.rank classId ≤ depth) :
    (mibOps table (depth + 1)).AgreeOn (· = classId) (mibCalls table) := by
  induction depth, hdepth using Nat.le_induction with
  | base =>
      rintro id rfl
      exact ⟨fun _ _ _ _ _ => rfl, fun _ _ => rfl⟩
  | succ depth hdepth ih =>
      rintro id rfl
      have hagree := mibOps_agreeOn table depth id hdepth
      constructor
      · intro ctx active inst data avc
        rw [← (ih id rfl).1]
        exact (mibMeCreateWith_congr hagree ctx active inst data avc).symm
      · intro ctx inst
        rw [← (ih id rfl).2]
        exact (mibMeDeleteWith_congr hagree ctx inst).symm

theorem mibOps_agreeOn_mibCalls (table : ClassTable ω) (classId : ClassId) :
    (mibOps table (table.rank classId)).AgreeOn (table.Slave classId) (mibCalls table) := by
  intro id hid
  obtain ⟨depth, hdepth⟩ : ∃ depth, table.rank classId = depth + 1 :=
    Nat.exists_eq_succ_of_ne_zero (Nat.ne_zero_of_lt hid)
  have hlt : table.rank id < table.rank classId := hid
  rw [hdepth] at hlt ⊢
  exact mibOps_eq_of_rank_le table id (Nat.le_of_lt_succ hlt) id rfl

/-- `mib_me_create` as the source has it, called again from the handlers. -/
theorem mibMeCreate_eq (table : ClassTable ω) :
    mibMeCreate table = mibMeCreateWith table (mibCalls table) := by
  funext ctx active classId inst data avc
  exact mibMeCreateWith_congr (mibOps_agreeOn_mibCalls table classId) ctx active inst data avc

/-- `mib_me_delete` as the source has it. -/
theorem mibMeDelete_eq (table : ClassTable ω) :
    mibMeDelete table = mibMeDeleteWith table (mibCalls table) := by
  funext ctx classId inst
  exact mibMeDeleteWith_congr (mibOps_agreeOn_mibCalls table classId) ctx inst

end Recursion

end FalconGpon.Omci
