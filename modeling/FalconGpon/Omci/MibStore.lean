/-
# The MIB over runs of calls

The MIB is a store of managed entities under class and instance. `Represented`
says what the lists and the counter promise about it, and `mibCreate_represented`
that they keep it through every sequence of calls, failing ones included, as long as
no call is denied a PM list entry. A call that is denied one leaves a freed record
in a list.
-/

import FalconGpon.Lib.Transition
import FalconGpon.Omci.MeDef
import FalconGpon.Omci.MibReset

namespace FalconGpon.Omci

open FalconGpon.Lib
open Context

variable {ω : Type}

/-- A call of the MIB functions. -/
inductive MibCall
  | create (active : Bool) (classId : ClassId) (instanceId : InstanceId)
      (initData : Option (List Byte)) (suppressAvc : AttrMask)
  | delete (classId : ClassId) (instanceId : InstanceId)
  | reset (force : Bool)

/-- A call, and which of its requests the system grants. -/
structure MibEvent where
  supply : Resource → Nat → Bool
  call : MibCall

def MibEvent.PmGranted (event : MibEvent) : Prop :=
  ∀ n, event.supply .pmListEntry n = true

/-- Make a call. -/
def MibCall.run (config : Config ω) (context : OmciContext ω) : MibCall → OmciContext ω
  | .create active classId instanceId initData suppressAvc =>
      { context with
        mib := (mibMeCreate config.table context.mib active classId instanceId initData
          suppressAvc).1 }
  | .delete classId instanceId =>
      { context with mib := (mibMeDelete config.table context.mib classId instanceId).1 }
  | .reset force => (mibReset config force context).context

def OmciContext.withSupply (context : OmciContext ω) (supply : Resource → Nat → Bool) :
    OmciContext ω :=
  { context with mib := { context.mib with supply := supply } }

def mibStep (config : Config ω) (context : OmciContext ω) (event : MibEvent) :
    Option (OmciContext ω) :=
  some (event.call.run config (context.withSupply event.supply))

/-- The lists and the counter describe a set of entities. -/
structure Represented (table : ClassTable ω) (ctx : Context ω) : Prop where
  /-- Strictly ascending, hence without duplicates. -/
  ascending : ∀ classId, Ascending MeEntry.key (ctx.meList classId)
  /-- A freed record has no instance identifier. -/
  live : ctx.AllLive
  count : ctx.meCount = ∑ classId ∈ table.ids.toFinset, (ctx.meList classId).length
  /-- All entries are counted. -/
  known : ∀ classId, classId ∉ table.ids → ctx.meList classId = []
  find : ∀ classId inst, (∃ me, mibMeFind table ctx classId inst = .ok me) ↔
    ∃ entry ∈ ctx.meList classId, entry.instanceId = inst

/-- The invariant of the MIB functions, with live records. -/
theorem Context.MibInv.represented {table : ClassTable ω} {ctx : Context ω}
    (hinv : MibInv table ctx) (hlive : ctx.AllLive) : Represented table ctx where
  ascending := hinv.ascending
  live := hlive
  count := hinv.count
  known := hinv.known
  find classId inst := by
    constructor
    · intro hfound
      obtain ⟨me, hme⟩ := hfound
      obtain ⟨entry, hentry, hinst, _⟩ := (hinv.mibMeFind_iff classId inst me).mp hme
      exact ⟨entry, hentry, hinst⟩
    · intro hexists
      obtain ⟨entry, hentry, hinst⟩ := hexists
      exact ⟨entry.ref, (hinv.mibMeFind_iff classId inst entry.ref).mpr ⟨entry, hentry, hinst, rfl⟩⟩

theorem MibCall.run_kept {config : Config ω} (call : MibCall) {context : OmciContext ω}
    (hinv : MibInv config.table context.mib) :
    KeptAll config.table context.mib (call.run config context).mib := by
  cases call with
  | create active classId inst data avc =>
      exact (mibMeCreate_kept hinv active classId inst data avc).mono fun _ _ => trivial
  | delete classId inst =>
      exact (mibMeDelete_kept hinv classId inst).mono fun _ _ => trivial
  | reset force => exact mibReset_kept force hinv

theorem Context.MibInv.withSupply {table : ClassTable ω} {context : OmciContext ω}
    (hinv : MibInv table context.mib) (supply : Resource → Nat → Bool) :
    MibInv table (context.withSupply supply).mib :=
  ⟨hinv.ascending, hinv.known, hinv.count⟩

theorem mibStep_kept {config : Config ω} {before after : OmciContext ω} {event : MibEvent}
    (hinv : MibInv config.table before.mib) (hlive : before.mib.AllLive)
    (hgranted : event.PmGranted) (hstep : mibStep config before event = some after) :
    MibInv config.table after.mib ∧ after.mib.AllLive := by
  obtain rfl := Option.some.inj hstep
  have hkept := event.call.run_kept (hinv.withSupply event.supply)
  exact ⟨hkept.inv, hkept.live hgranted hlive⟩

/-- After every sequence of calls from `mib_create` on, as long as none is denied a PM
list entry, the lists and the counter describe a set of entities and `mib_me_find`
finds exactly these. -/
theorem mibCreate_represented (config : Config ω) {start : OmciContext ω}
    (hstart : start.mib.PmGranted) {context : OmciContext ω}
    (hreach : ReachOn (mibStep config) (fun _ event => event.PmGranted)
      (mibCreate config start).context context) : Represented config.table context.mib := by
  have ⟨hinv, hlive⟩ := @mibCreate_live _ config start hstart
  obtain ⟨hafter, halive⟩ := hreach.invariant ⟨hinv, hlive⟩
    fun before event after hboth hgranted hstep =>
      mibStep_kept hboth.1 hboth.2 hgranted hstep
  exact hafter.represented halive

/-! ## A run -/

/-- A MIB template with one Ethernet port. -/
def sampleConfig : Config Unit where
  table := sampleTable
  onReset := .create true omciMePptpEthernetUni 0x101 (some (List.replicate 17 0)) 0xffff
    fun err _ => .done err
  lctPort := 0xff
  mapperReset := id

/-- The context that `omci_init` hands to `mib_create`. -/
def sampleStart : OmciContext Unit where
  mib := Context.empty (fun _ _ => true) blankStore
  mibCopy := ⟨[], 0, false⟩
  mibResetInProgress := false

def pmhdCreate (supply : Resource → Nat → Bool) : MibEvent :=
  ⟨supply, .create true 321 0x101 none 0⟩

/-- The MIB that `mib_create` leaves, with the PM entity. -/
def pmhdCreated (supply : Resource → Nat → Bool) : OmciContext Unit :=
  (pmhdCreate supply).call.run sampleConfig
    ((mibCreate sampleConfig sampleStart).context.withSupply supply)

theorem mibStep_pmhdCreate (supply : Resource → Nat → Bool) :
    mibStep sampleConfig (mibCreate sampleConfig sampleStart).context (pmhdCreate supply) =
      some (pmhdCreated supply) :=
  rfl

/-- With everything granted both entities are in the MIB. -/
theorem mibCreate_represented_pmhdCreated :
    (pmhdCreated fun _ _ => true).mib.meCount = 2 ∧
      Represented sampleTable (pmhdCreated fun _ _ => true).mib := by
  have hgranted : (pmhdCreate fun _ _ => true).PmGranted := fun _ => rfl
  have hreach : ReachOn (mibStep sampleConfig) (fun _ event => event.PmGranted)
      (mibCreate sampleConfig sampleStart).context (pmhdCreated fun _ _ => true) :=
    .tail .refl hgranted (mibStep_pmhdCreate _)
  exact ⟨by decide, mibCreate_represented sampleConfig (fun _ => rfl) hreach⟩

/-- Without the PM list entry the list of the class holds a freed record. -/
theorem mibCreate_not_represented :
    ∃ context : OmciContext Unit,
      Reach (mibStep sampleConfig) (mibCreate sampleConfig sampleStart).context context ∧
        ¬ Represented sampleTable context.mib := by
  have hreach : Reach (mibStep sampleConfig) (mibCreate sampleConfig sampleStart).context
      (pmhdCreated fun resource _ => resource != .pmListEntry) :=
    .tail .refl trivial (mibStep_pmhdCreate _)
  refine ⟨_, hreach, ?_⟩
  intro hrep
  have hlive := hrep.live 321
  revert hlive
  decide

end FalconGpon.Omci
