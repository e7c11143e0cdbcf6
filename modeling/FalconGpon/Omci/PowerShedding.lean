/-
# Power shedding

A loss of AC power starts a shedding timer for each class of UNIs with an interval, a return
of it starts a restore timer; neither stops the timers of the other. A shedding timer locks
the UNIs of its class, the restore timer unlocks all UNIs and clears the status. The main
result is `shedding_kept_iff`.
-/

import Mathlib.Data.List.Sort
import Mathlib.Data.List.TakeWhile
import FalconGpon.Lib.Transition

namespace FalconGpon.Omci

open FalconGpon.Lib

/-- The classes of UNIs that are shed: `OMCI_ME_PPTP_ETHERNET_UNI` and, with
`INCLUDE_OMCI_ONU_VOIP`, `OMCI_ME_PPTP_POTS_UNI`. -/
inductive ShedClass
  | data
  | voice
deriving DecidableEq

/-- What `mib_me_find_where` finds for the circuit pack type of a class. -/
inductive PackLookup
  /-- No circuit pack: an error. -/
  | missing
  /-- One, with its `power_shed_override`. -/
  | one (override : BitVec 32)
  /-- More than one: `error` is still `OMCI_SUCCESS`. -/
  | several
deriving DecidableEq

/-- The identifiers of UNIs: the low byte is the port, and ports count from 1. -/
structure UniId where
  instanceId : BitVec 16
  port_pos : 0 < (instanceId.setWidth 8).toNat
  port_le : (instanceId.setWidth 8).toNat ≤ 32
deriving DecidableEq

/-- `me->instance_id & 0xFF`. -/
def UniId.port (uniId : UniId) : Nat :=
  (uniId.instanceId.setWidth 8).toNat

/-- An UNI with its administrative state, and with the one it had without shedding. -/
structure Uni where
  id : UniId
  locked : Bool
  oltLocked : Bool
deriving DecidableEq

/-- `(1 << (31 - port + 1)) & power_shed_override`. -/
def shedOverridden (override : BitVec 32) (uniId : UniId) : Bool :=
  (1#32 <<< (31 + 1 - uniId.port)) &&& override != 0

/-- What does not change while the ONU runs. -/
structure ShedSetup where
  pack : ShedClass → PackLookup
  /-- `INCLUDE_OMCI_ONU_VOIP`. -/
  voip : Bool

/-- `me_attr_write` of the administrative state; what is there already is not written. -/
def adminStateWrite (accepts : UniId → Bool) (lock : Bool) (uni : Uni) : Option Uni :=
  if uni.locked = lock then some uni
  else if accepts uni.id then some { uni with locked := lock }
  else none

/-- `shed_walker`. -/
def shedWalker (pack : PackLookup) (accepts : UniId → Bool) (lock : Bool) (uni : Uni) :
    Option Uni :=
  match pack with
  | .missing => none
  | .several => some uni
  | .one override =>
      if shedOverridden override uni.id then some uni else adminStateWrite accepts lock uni

/-- `mib_walk_by_class`: the UNIs after the walk, and whether it came to its end. -/
def shedWalk (walker : Uni → Option Uni) : List Uni → List Uni × Bool
  | [] => ([], true)
  | uni :: rest =>
      match walker uni with
      | none => (uni :: rest, false)
      | some walked => (walked :: (shedWalk walker rest).1, (shedWalk walker rest).2)

inductive ShedHandler
  /-- `data_shed_enable_timeout_handle` and `voice_shed_enable_timeout_handle`. -/
  | enable (cls : ShedClass)
  /-- `shed_disable_timeout_handle`. -/
  | disable
deriving DecidableEq

/-- A pending timer; `period` is the number of losses before it was started. -/
structure ShedTimer where
  due : Nat
  handler : ShedHandler
  period : Nat
deriving DecidableEq

/-- The UNIs, the ONU Power Shedding ME and its timers. `losses` counts the losses of AC
power; `restored` holds from a restore with power present throughout up to the next loss. -/
structure ShedState where
  now : Nat
  acPresent : Bool
  losses : Nat
  restored : Bool
  uni : ShedClass → List Uni
  restoreInterval : BitVec 16
  shedInterval : ShedClass → BitVec 16
  status : BitVec 16
  timers : List ShedTimer

namespace ShedState

/-- `timeout_event_add`; `memory` is whether there is memory for the event. -/
def timeoutAdd (state : ShedState) (memory : Bool) (delay : Nat) (handler : ShedHandler) :
    Option ShedState :=
  if memory then
    some { state with
      timers := state.timers.orderedInsert (fun new timer => new.due < timer.due)
        ⟨state.now + delay, handler, state.losses⟩ }
  else none

/-- The part of `ac_power_off_cb` for one class. -/
def shedStart (state : ShedState) (memory : Bool) (cls : ShedClass) : Option ShedState :=
  let interval := (state.shedInterval cls).toNat
  if interval = 0 then some state
  else state.timeoutAdd memory (if interval = 1 then 0 else interval * 1000) (.enable cls)

/-- `ac_power_off_cb`. -/
def acPowerOffCb (setup : ShedSetup) (memory : ShedClass → Bool) (state : ShedState) : ShedState :=
  match state.shedStart (memory .data) .data with
  | none => state
  | some started =>
      if setup.voip then (started.shedStart (memory .voice) .voice).getD started else started

/-- `ac_power_on_cb`. -/
def acPowerOnCb (memory : Bool) (state : ShedState) : ShedState :=
  (state.timeoutAdd memory (state.restoreInterval.toNat * 1000) .disable).getD state

def shedBit : ShedClass → BitVec 16
  | .data => 0x8000
  | .voice => 0x4000

/-- The UNIs of a class and whether the walk over them came to its end. -/
def walkClass (setup : ShedSetup) (accepts : ShedClass → UniId → Bool) (lock : Bool)
    (state : ShedState) (cls : ShedClass) : ShedState × Bool :=
  let walked := shedWalk (shedWalker (setup.pack cls) (accepts cls) lock) (state.uni cls)
  ({ state with uni := Function.update state.uni cls walked.1 }, walked.2)

/-- `data_shed_enable_timeout_handle` and `voice_shed_enable_timeout_handle`. -/
def shedEnableTimeoutHandle (setup : ShedSetup) (accepts : ShedClass → UniId → Bool)
    (cls : ShedClass) (state : ShedState) : ShedState :=
  let walked := state.walkClass setup accepts true cls
  if walked.2 then { walked.1 with status := state.status ||| shedBit cls } else walked.1

/-- `shed_disable_timeout_handle`. -/
def shedDisableTimeoutHandle (setup : ShedSetup) (accepts : ShedClass → UniId → Bool)
    (state : ShedState) : ShedState :=
  let data := state.walkClass setup accepts false .data
  if data.2 then
    if setup.voip then
      let voice := data.1.walkClass setup accepts false .voice
      if voice.2 then { voice.1 with status := 0 } else voice.1
    else { data.1 with status := 0 }
  else data.1

def handle (setup : ShedSetup) (accepts : ShedClass → UniId → Bool) (state : ShedState) :
    ShedHandler → ShedState
  | .enable cls => state.shedEnableTimeoutHandle setup accepts cls
  | .disable => state.shedDisableTimeoutHandle setup accepts

/-- The OLT sets the administrative state of an UNI. -/
def oltSet (accepts : UniId → Bool) (lock : Bool) (uni : Uni) : Uni :=
  match adminStateWrite accepts lock uni with
  | none => uni
  | some written => { written with oltLocked := lock }

end ShedState

/-- What happens to the ONU; `memory` and `accepts` say which requests succeed. -/
inductive ShedEvent
  | tick (elapsed : Nat)
  | acOff (memory : ShedClass → Bool)
  | acOn (memory : Bool)
  /-- The first timer expires. -/
  | expire (accepts : ShedClass → UniId → Bool)
  | setShedInterval (cls : ShedClass) (interval : BitVec 16)
  | setRestoreInterval (interval : BitVec 16)
  | setAdminState (cls : ShedClass) (uniId : UniId) (lock : Bool) (accepts : UniId → Bool)

/-- A step; a timer expires when it is due. -/
def shedStep (setup : ShedSetup) (state : ShedState) : ShedEvent → Option ShedState
  | .tick elapsed => some { state with now := state.now + elapsed }
  | .acOff memory =>
      some (ShedState.acPowerOffCb setup memory
        { state with acPresent := false, losses := state.losses + 1, restored := false })
  | .acOn memory => some (ShedState.acPowerOnCb memory { state with acPresent := true })
  | .expire accepts =>
      match state.timers with
      | [] => none
      | timer :: rest =>
          if timer.due ≤ state.now then
            some (ShedState.handle setup accepts
              { state with
                timers := rest
                restored := state.restored ||
                  (state.acPresent && timer.handler = .disable && timer.period = state.losses) }
              timer.handler)
          else none
  | .setShedInterval cls interval =>
      some { state with shedInterval := Function.update state.shedInterval cls interval }
  | .setRestoreInterval interval => some { state with restoreInterval := interval }
  | .setAdminState cls uniId lock accepts =>
      some { state with
        uni := Function.update state.uni cls ((state.uni cls).map fun uni =>
          if uni.id = uniId then ShedState.oltSet accepts lock uni else uni) }

/-- The ONU before the first loss of power; no UNI has been shed. -/
def shedInit (uni : ShedClass → List (UniId × Bool)) (restoreInterval : BitVec 16)
    (shedInterval : ShedClass → BitVec 16) : ShedState where
  now := 0
  acPresent := true
  losses := 0
  restored := false
  uni cls := (uni cls).map fun entry => ⟨entry.1, entry.2, entry.2⟩
  restoreInterval := restoreInterval
  shedInterval := shedInterval
  status := 0
  timers := []

/-! ## What shedding should keep to -/

def ShedState.Unshed (state : ShedState) : Prop :=
  (∀ cls, ∀ uni ∈ state.uni cls, uni.locked = uni.oltLocked) ∧ state.status = 0

/-- An expiry with AC power present locks no UNI, none changes an UNI whose override bit is
set (port 1 has the most significant one), and after a restore nothing is shed. -/
structure SheddingKept (setup : ShedSetup) (before : ShedState) (event : ShedEvent)
    (after : ShedState) : Prop where
  present : ∀ accepts, event = .expire accepts → before.acPresent = true → ∀ cls,
    List.Forall₂ (fun uni uni' => uni'.locked = true → uni.locked = true)
      (before.uni cls) (after.uni cls)
  overridden : ∀ accepts, event = .expire accepts → ∀ cls override,
    setup.pack cls = .one override →
    List.Forall₂ (fun uni uni' => override.getMsbD (uni.id.port - 1) = true → uni' = uni)
      (before.uni cls) (after.uni cls)
  restored : after.restored = true → after.Unshed

/-- A restore gets past the UNI. -/
def restorable (pack : PackLookup) (accepts : UniId → Bool) (uni : Uni) : Bool :=
  match pack with
  | .missing => false
  | .several => true
  | .one override => shedOverridden override uni.id || !uni.locked || accepts uni.id

def ShedSetup.Sheds (setup : ShedSetup) (cls : ShedClass) (uni : Uni) : Prop :=
  (cls = .voice → setup.voip = true) ∧
    ∃ override, setup.pack cls = .one override ∧ shedOverridden override uni.id = false

namespace ShedState

/-- With AC power present: no UNI of the class gets locked, as the first that is neither locked
nor overridden refuses to be or there is none, and the status is not set after a restore. -/
def ShedsNone (setup : ShedSetup) (accepts : ShedClass → UniId → Bool) (cls : ShedClass)
    (state : ShedState) : Prop :=
  match setup.pack cls with
  | .missing => state.restored = true → state.uni cls ≠ []
  | .several => state.restored = false
  | .one override =>
      match (state.uni cls).find? fun uni => !shedOverridden override uni.id && !uni.locked with
      | none => state.restored = false
      | some uni => accepts cls uni.id = false

def passed (setup : ShedSetup) (accepts : ShedClass → UniId → Bool) (state : ShedState)
    (cls : ShedClass) : List Uni :=
  (state.uni cls).takeWhile (restorable (setup.pack cls) (accepts cls))

def stopped (setup : ShedSetup) (accepts : ShedClass → UniId → Bool) (state : ShedState)
    (cls : ShedClass) : List Uni :=
  (state.uni cls).dropWhile (restorable (setup.pack cls) (accepts cls))

def PassesUnlocked (setup : ShedSetup) (accepts : ShedClass → UniId → Bool)
    (state : ShedState) (cls : ShedClass) : Prop :=
  ∀ uni ∈ state.passed setup accepts cls, setup.Sheds cls uni → uni.oltLocked = false

def StopsUnshed (setup : ShedSetup) (accepts : ShedClass → UniId → Bool)
    (state : ShedState) (cls : ShedClass) : Prop :=
  (∀ uni ∈ state.stopped setup accepts cls, uni.locked = uni.oltLocked) ∧ state.status = 0

/-- A restore unlocks no UNI that the OLT has locked, and where it stops nothing is shed. -/
def RestoresAll (setup : ShedSetup) (accepts : ShedClass → UniId → Bool)
    (state : ShedState) : Prop :=
  state.PassesUnlocked setup accepts .data ∧
    if state.stopped setup accepts .data = [] then
      setup.voip = true → state.PassesUnlocked setup accepts .voice ∧
        (state.stopped setup accepts .voice ≠ [] → state.StopsUnshed setup accepts .voice)
    else
      state.StopsUnshed setup accepts .data ∧
        ∀ uni ∈ state.uni .voice, uni.locked = uni.oltLocked

/-- The condition on an expiry. -/
def ExpiresWell (setup : ShedSetup) (state : ShedState) : ShedEvent → Prop
  | .expire accepts => ∀ timer ∈ state.timers.head?,
      match timer.handler with
      | .enable cls => state.acPresent = true → state.ShedsNone setup accepts cls
      | .disable =>
          state.restored = true ∨ state.acPresent = true ∧ timer.period = state.losses →
            state.RestoresAll setup accepts
  | _ => True

/-- What holds of every run: UNIs that shedding does not reach are as the OLT wants them, and
there is a timer for voice UNIs only if these are shed. -/
structure Sound (setup : ShedSetup) (state : ShedState) : Prop where
  kept : ∀ cls, ∀ uni ∈ state.uni cls, ¬ setup.Sheds cls uni → uni.locked = uni.oltLocked
  voice : ∀ timer ∈ state.timers, timer.handler = .enable .voice → setup.voip = true
  present : state.restored = true → state.acPresent = true

/-- What holds of runs that keep to what they should. -/
structure Settled (setup : ShedSetup) (state : ShedState) : Prop where
  sound : state.Sound setup
  unshed : state.restored = true → state.Unshed

end ShedState

/-! ## Walks -/

/-- The override bits count from the most significant one. -/
theorem shedOverridden_eq (override : BitVec 32) (uniId : UniId) :
    shedOverridden override uniId = override.getMsbD (uniId.port - 1) := by
  have hpos : 0 < uniId.port := uniId.port_pos
  have hle : uniId.port ≤ 32 := uniId.port_le
  unfold shedOverridden
  rw [← BitVec.twoPow_eq, BitVec.twoPow_and, BitVec.getMsbD_eq_getLsbD]
  have hsub : 32 - 1 - (uniId.port - 1) = 31 + 1 - uniId.port := by omega
  have hlt : uniId.port - 1 < 32 := by omega
  rw [hsub, decide_eq_true hlt, Bool.true_and]
  have hnonzero : BitVec.twoPow 32 (31 + 1 - uniId.port) ≠ 0#32 := by
    intro hzero
    have hnat := congrArg BitVec.toNat hzero
    rw [BitVec.toNat_twoPow_of_lt (by omega)] at hnat
    exact absurd hnat (by simp)
  cases override.getLsbD (31 + 1 - uniId.port) with
  | false => simp
  | true => simpa using hnonzero

section Walk

variable {walker : Uni → Option Uni}

theorem shedWalk_forall₂ {R : Uni → Uni → Prop} (hrefl : ∀ uni, R uni uni)
    (hwalker : ∀ uni walked, walker uni = some walked → R uni walked) (unis : List Uni) :
    List.Forall₂ R unis (shedWalk walker unis).1 := by
  induction unis with
  | nil => exact .nil
  | cons uni rest ih =>
      rw [shedWalk]
      cases hwalk : walker uni with
      | none => exact List.forall₂_same.mpr fun uni _ => hrefl uni
      | some walked => exact .cons (hwalker uni walked hwalk) ih

theorem shedWalk_end (unis : List Uni) :
    (shedWalk walker unis).2 = true ↔ unis.dropWhile (fun uni => (walker uni).isSome) = [] := by
  induction unis with
  | nil => exact iff_of_true rfl rfl
  | cons uni rest ih =>
      rw [shedWalk, List.dropWhile_cons]
      cases hwalk : walker uni with
      | none => simp
      | some walked => simpa using ih

theorem forall_mem_shedWalk {P : Uni → Prop} (unis : List Uni) :
    (∀ uni ∈ (shedWalk walker unis).1, P uni) ↔
      (∀ uni ∈ unis.takeWhile (fun uni => (walker uni).isSome), ∀ walked ∈ walker uni, P walked) ∧
        ∀ uni ∈ unis.dropWhile (fun uni => (walker uni).isSome), P uni := by
  induction unis with
  | nil => simp [shedWalk]
  | cons uni rest ih =>
      rw [shedWalk, List.takeWhile_cons, List.dropWhile_cons]
      cases hwalk : walker uni with
      | none => simp
      | some walked =>
          simp only [Option.isSome_some, if_true, List.forall_mem_cons, ih, hwalk,
            Option.mem_def, Option.some.injEq, forall_eq', and_assoc]

end Walk

section Walker

variable {pack : PackLookup} {accepts : UniId → Bool} {lock : Bool} {uni walked : Uni}

/-- The walker sets the state of an UNI that its circuit pack does not override, and leaves
any other alone. -/
theorem shedWalker_cases (hwalk : shedWalker pack accepts lock uni = some walked) :
    ((∃ override, pack = .one override ∧ shedOverridden override uni.id = false) ∧
        walked = { uni with locked := lock }) ∨
      ((∀ override, pack = .one override → shedOverridden override uni.id = true) ∧
        walked = uni) := by
  cases pack with
  | missing => cases hwalk
  | several =>
      obtain rfl := Option.some.inj hwalk
      exact .inr ⟨nofun, rfl⟩
  | one override =>
      simp only [shedWalker, adminStateWrite] at hwalk
      by_cases hover : shedOverridden override uni.id = true
      · rw [if_pos hover] at hwalk
        obtain rfl := Option.some.inj hwalk
        refine .inr ⟨?_, rfl⟩
        rintro _ ⟨⟩
        exact hover
      · rw [if_neg hover] at hwalk
        refine .inl ⟨⟨override, rfl, by simpa using hover⟩, ?_⟩
        by_cases hsame : uni.locked = lock
        · rw [if_pos hsame] at hwalk
          obtain rfl := Option.some.inj hwalk
          rw [← hsame]
        · rw [if_neg hsame] at hwalk
          split at hwalk
          · exact (Option.some.inj hwalk).symm
          · cases hwalk

theorem isSome_shedWalker : (shedWalker pack accepts false uni).isSome =
    restorable pack accepts uni := by
  cases pack with
  | missing => rfl
  | several => rfl
  | one override =>
      simp only [shedWalker, adminStateWrite, restorable]
      cases shedOverridden override uni.id <;> cases uni.locked <;> cases accepts uni.id <;> rfl

/-- Locking changes nothing if the first UNI that could be locked refuses to be, or there is
none. -/
theorem shedWalk_lock_eq (accepts : UniId → Bool) (override : BitVec 32) (unis : List Uni)
    (hrefuses : ∀ uni ∈ unis.find? fun uni => !shedOverridden override uni.id && !uni.locked,
      accepts uni.id = false) :
    shedWalk (shedWalker (.one override) accepts true) unis =
      (unis, (unis.find? fun uni => !shedOverridden override uni.id && !uni.locked).isNone) := by
  induction unis with
  | nil => rfl
  | cons uni rest ih =>
      rw [List.find?_cons] at hrefuses ⊢
      rw [shedWalk]
      cases hfirst : !shedOverridden override uni.id && !uni.locked with
      | true =>
          rw [hfirst] at hrefuses
          have hrefused : accepts uni.id = false := hrefuses uni rfl
          obtain ⟨hover, hlocked⟩ : shedOverridden override uni.id = false ∧ uni.locked = false :=
            by simpa using hfirst
          simp [shedWalker, adminStateWrite, hover, hlocked, hrefused]
      | false =>
          rw [hfirst] at hrefuses
          have hskip : shedWalker (.one override) accepts true uni = some uni := by
            simp only [shedWalker, adminStateWrite]
            by_cases hover : shedOverridden override uni.id = true
            · rw [if_pos hover]
            · have hlocked : uni.locked = true := by simpa [hover] using hfirst
              rw [if_neg hover, if_pos hlocked]
          rw [hskip]
          simp only [ih hrefuses]

/-- The first UNI that could be locked gets locked if it does not refuse to be. -/
theorem not_shedWalk_lock {override : BitVec 32} {first : Uni} (unis : List Uni)
    (hfirst : (unis.find? fun uni => !shedOverridden override uni.id && !uni.locked) = some first)
    (haccepts : accepts first.id = true) :
    ¬ List.Forall₂ (fun uni uni' => uni'.locked = true → uni.locked = true) unis
      (shedWalk (shedWalker (.one override) accepts true) unis).1 := by
  induction unis with
  | nil => cases hfirst
  | cons uni rest ih =>
      rw [List.find?_cons] at hfirst
      rw [shedWalk]
      cases hcould : !shedOverridden override uni.id && !uni.locked with
      | true =>
          rw [hcould] at hfirst
          obtain rfl := Option.some.inj hfirst
          obtain ⟨hover, hlocked⟩ : shedOverridden override uni.id = false ∧ uni.locked = false :=
            by simpa using hcould
          have hwalk : shedWalker (.one override) accepts true uni =
              some { uni with locked := true } := by
            simp [shedWalker, adminStateWrite, hover, hlocked, haccepts]
          rw [hwalk]
          intro hrel
          rw [List.forall₂_cons] at hrel
          exact absurd (hrel.1 rfl) (by simp [hlocked])
      | false =>
          rw [hcould] at hfirst
          cases hwalk : shedWalker (.one override) accepts true uni with
          | none =>
              exfalso
              simp only [shedWalker, adminStateWrite] at hwalk
              by_cases hover : shedOverridden override uni.id = true
              · simp [hover] at hwalk
              · have hlocked : uni.locked = true := by simpa [hover] using hcould
                simp [hover, hlocked] at hwalk
          | some walked =>
              intro hrel
              exact ih hfirst (List.forall₂_cons.mp hrel).2

end Walker

theorem forall_mem_of_forall₂ {P : Uni → Prop} {unis unis' : List Uni}
    (hrel : List.Forall₂ (fun uni uni' => P uni → P uni') unis unis')
    (hall : ∀ uni ∈ unis, P uni) : ∀ uni' ∈ unis', P uni' := by
  induction hrel with
  | nil => exact hall
  | cons hfirst _ ih =>
      rw [List.forall_mem_cons] at hall ⊢
      exact ⟨hfirst hall.1, ih hall.2⟩

/-! ## Handlers -/

def ShedHandler.lock : ShedHandler → Bool
  | .enable _ => true
  | .disable => false

namespace ShedState

variable {setup : ShedSetup} {accepts : ShedClass → UniId → Bool} {state before after : ShedState}

/-- A walk over a class leaves the other class alone. -/
theorem walkClass_forall₂ (accepts : ShedClass → UniId → Bool) (state : ShedState)
    {R : ShedClass → Uni → Uni → Prop} {lock : Bool} {walked : ShedClass}
    (hrefl : ∀ cls uni, R cls uni uni)
    (hwalker : ∀ uni uni', shedWalker (setup.pack walked) (accepts walked) lock uni = some uni' →
      R walked uni uni') (cls : ShedClass) :
    List.Forall₂ (R cls) (state.uni cls)
      ((state.walkClass setup accepts lock walked).1.uni cls) := by
  unfold walkClass
  by_cases hcls : cls = walked
  · subst hcls
    simp only [Function.update_self]
    exact shedWalk_forall₂ (hrefl cls) hwalker _
  · simp only [Function.update_of_ne hcls]
    exact List.forall₂_same.mpr fun uni _ => hrefl cls uni

/-- A handler does to an UNI what its walker does, and that only to classes that are shed. -/
theorem handle_forall₂ {R : ShedClass → Uni → Uni → Prop} {handler : ShedHandler}
    (hvoice : handler = .enable .voice → setup.voip = true) (hrefl : ∀ cls uni, R cls uni uni)
    (hwalker : ∀ cls uni uni', (cls = .voice → setup.voip = true) →
      shedWalker (setup.pack cls) (accepts cls) handler.lock uni = some uni' → R cls uni uni')
    (cls : ShedClass) :
    List.Forall₂ (R cls) (state.uni cls) ((state.handle setup accepts handler).uni cls) := by
  cases handler with
  | enable shed =>
      have hwalk := walkClass_forall₂ accepts state hrefl
        (fun uni uni' => hwalker shed uni uni' fun hshed => hvoice (hshed ▸ rfl)) cls
      simp only [handle, shedEnableTimeoutHandle]
      split <;> exact hwalk
  | disable =>
      have hdata := walkClass_forall₂ accepts state hrefl
        (fun uni uni' => hwalker .data uni uni' nofun) cls
      simp only [handle, shedDisableTimeoutHandle]
      by_cases hend : (state.walkClass setup accepts false .data).2 = true
      · rw [if_pos hend]
        by_cases hvoip : setup.voip = true
        · rw [if_pos hvoip]
          have hboth : List.Forall₂ (R cls) (state.uni cls)
              (((state.walkClass setup accepts false .data).1.walkClass setup accepts false
                .voice).1.uni cls) := by
            cases cls with
            | data =>
                -- the walk over voice UNIs leaves the data UNIs as the first walk did
                simpa [walkClass, ShedHandler.lock] using hdata
            | voice =>
                have hsecond := walkClass_forall₂ accepts
                  (state.walkClass setup accepts false .data).1 hrefl
                  (fun uni uni' => hwalker .voice uni uni' fun _ => hvoip) .voice
                simpa [walkClass, ShedHandler.lock] using hsecond
          split <;> exact hboth
        · rw [if_neg hvoip]
          exact hdata
      · rw [if_neg hend]
        exact hdata

/-- A handler changes nothing but the UNIs and the status. -/
theorem handle_frame (setup : ShedSetup) (accepts : ShedClass → UniId → Bool)
    (state : ShedState) (handler : ShedHandler) :
    ∃ uni status, state.handle setup accepts handler = { state with uni, status } := by
  cases handler with
  | enable cls =>
      rw [handle, shedEnableTimeoutHandle]
      split <;> exact ⟨_, _, rfl⟩
  | disable =>
      rw [handle, shedDisableTimeoutHandle]
      by_cases hdata : (state.walkClass setup accepts false .data).2 = true
      · rw [if_pos hdata]
        by_cases hvoip : setup.voip = true
        · rw [if_pos hvoip]
          dsimp only
          split <;> exact ⟨_, _, rfl⟩
        · rw [if_neg hvoip]
          exact ⟨_, _, rfl⟩
      · rw [if_neg hdata]
        exact ⟨_, _, rfl⟩

theorem handle_kept {handler : ShedHandler} (hvoice : handler = .enable .voice → setup.voip = true)
    (hkept : ∀ cls, ∀ uni ∈ state.uni cls, ¬ setup.Sheds cls uni → uni.locked = uni.oltLocked) :
    ∀ cls, ∀ uni ∈ (state.handle setup accepts handler).uni cls, ¬ setup.Sheds cls uni →
      uni.locked = uni.oltLocked := by
  intro cls
  refine forall_mem_of_forall₂ (handle_forall₂ (R := fun cls uni uni' =>
    (¬ setup.Sheds cls uni → uni.locked = uni.oltLocked) →
      ¬ setup.Sheds cls uni' → uni'.locked = uni'.oltLocked) hvoice (fun _ _ => id) ?_ cls)
    (hkept cls)
  intro cls uni uni' hcls hwalk hbefore hsheds
  rcases shedWalker_cases hwalk with ⟨htarget, rfl⟩ | ⟨_, rfl⟩
  · exact absurd ⟨hcls, htarget⟩ hsheds
  · exact hbefore hsheds

theorem handle_overridden {handler : ShedHandler}
    (hvoice : handler = .enable .voice → setup.voip = true) {cls : ShedClass}
    {override : BitVec 32} (hpack : setup.pack cls = .one override) :
    List.Forall₂ (fun uni uni' => override.getMsbD (uni.id.port - 1) = true → uni' = uni)
      (state.uni cls) ((state.handle setup accepts handler).uni cls) := by
  refine handle_forall₂ (R := fun cls' uni uni' => cls' = cls →
    override.getMsbD (uni.id.port - 1) = true → uni' = uni) hvoice (fun _ _ _ _ => rfl) ?_ cls
    |>.imp fun uni uni' h => h rfl
  rintro cls' uni uni' - hwalk rfl hbit
  rcases shedWalker_cases hwalk with ⟨⟨override', hpack', hover⟩, -⟩ | ⟨-, rfl⟩
  · obtain rfl : override = override' := PackLookup.one.inj (hpack.symm.trans hpack')
    rw [shedOverridden_eq, hbit] at hover
    cases hover
  · rfl

theorem disable_present (state : ShedState) (cls : ShedClass) :
    List.Forall₂ (fun uni uni' => uni'.locked = true → uni.locked = true)
      (state.uni cls) ((state.handle setup accepts .disable).uni cls) := by
  have hvoice : ShedHandler.disable = .enable .voice → setup.voip = true := nofun
  refine handle_forall₂ (R := fun _ uni uni' => uni'.locked = true → uni.locked = true)
    hvoice (fun _ _ => id) ?_ cls
  intro cls uni uni' _ hwalk
  rcases shedWalker_cases hwalk with ⟨-, rfl⟩ | ⟨-, rfl⟩
  · exact fun h => nomatch h
  · exact id

/-- A shedding timer that expires with AC power present keeps to what it should exactly if it
locks no UNI and does not set the status after a restore. -/
theorem enable_kept_iff (setup : ShedSetup) (accepts : ShedClass → UniId → Bool)
    (state : ShedState) (cls : ShedClass) (hrestored : state.restored = true → state.Unshed) :
    ((∀ cls', List.Forall₂ (fun uni uni' => uni'.locked = true → uni.locked = true)
        (state.uni cls') ((state.handle setup accepts (.enable cls)).uni cls')) ∧
      (state.restored = true → (state.handle setup accepts (.enable cls)).Unshed)) ↔
      state.ShedsNone setup accepts cls := by
  have hsame : ∀ unis : List Uni,
      List.Forall₂ (fun uni uni' => uni'.locked = true → uni.locked = true) unis unis :=
    fun unis => List.forall₂_same.mpr fun _ _ => id
  have hbit : state.status = 0 → state.status ||| shedBit cls ≠ 0 := by
    intro hstatus
    rw [hstatus]
    cases cls <;> decide
  -- a walk that changes no UNI: all is well unless it sets the status after a restore
  have hquiet : ∀ ended, shedWalk (shedWalker (setup.pack cls) (accepts cls) true)
      (state.uni cls) = (state.uni cls, ended) →
      (((∀ cls', List.Forall₂ (fun uni uni' => uni'.locked = true → uni.locked = true)
          (state.uni cls') ((state.handle setup accepts (.enable cls)).uni cls')) ∧
        (state.restored = true → (state.handle setup accepts (.enable cls)).Unshed)) ↔
        (state.restored = true → ended = false)) := by
    intro ended hwalk
    simp only [handle, shedEnableTimeoutHandle, walkClass, hwalk, Function.update_eq_self]
    cases ended with
    | false => simpa [hsame] using hrestored
    | true =>
        refine ⟨fun hkept hrest => ?_, fun hnot => ⟨fun cls' => hsame (state.uni cls'), fun hrest => ?_⟩⟩
        · exact absurd (hkept.2 hrest).2 (hbit (hrestored hrest).2)
        · cases hnot hrest
  unfold ShedsNone
  cases hpack : setup.pack cls with
  | missing =>
      rw [hpack] at hquiet
      cases hunis : state.uni cls with
      | nil =>
          have hwalk := hquiet true (by rw [hunis]; rfl)
          simpa [hunis] using hwalk
      | cons uni rest =>
          have hwalk := hquiet false (by rw [hunis]; rfl)
          simpa [hunis] using hwalk
  | several =>
      rw [hpack] at hquiet
      have hall : ∀ unis, shedWalk (shedWalker .several (accepts cls) true) unis = (unis, true) := by
        intro unis
        induction unis with
        | nil => rfl
        | cons uni rest ih => simp [shedWalk, shedWalker, ih]
      simpa using hquiet true (hall _)
  | one override =>
      rw [hpack] at hquiet
      dsimp only
      cases hfind : (state.uni cls).find? fun uni =>
          !shedOverridden override uni.id && !uni.locked with
      | none =>
          have hwalk := shedWalk_lock_eq (accepts cls) override (state.uni cls)
            (by rw [hfind]; exact nofun)
          rw [hfind] at hwalk
          simpa using hquiet true hwalk
      | some uni =>
          dsimp only
          cases haccepts : accepts cls uni.id with
          | false =>
              have hwalk := shedWalk_lock_eq (accepts cls) override (state.uni cls) (by
                  rw [hfind]
                  rintro _ ⟨⟩
                  exact haccepts)
              rw [hfind] at hwalk
              simpa using hquiet false hwalk
          | true =>
              refine iff_of_false (fun hkept => ?_) (by simp)
              refine not_shedWalk_lock (state.uni cls) hfind haccepts ?_
              have hwalk := hkept.1 cls
              simp only [handle, shedEnableTimeoutHandle, walkClass, hpack] at hwalk
              split at hwalk <;> simpa using hwalk

/-- After the walk of a restore over a class its UNIs are as the OLT wants them exactly if none
that it unlocked is locked by the OLT, and none behind is shed. -/
theorem walkClass_unshed_iff (accepts : ShedClass → UniId → Bool) (cls : ShedClass)
    (hcls : cls = .voice → setup.voip = true)
    (hkept : ∀ uni ∈ state.uni cls, ¬ setup.Sheds cls uni → uni.locked = uni.oltLocked) :
    (∀ uni ∈ (state.walkClass setup accepts false cls).1.uni cls, uni.locked = uni.oltLocked) ↔
      state.PassesUnlocked setup accepts cls ∧
        ∀ uni ∈ state.stopped setup accepts cls, uni.locked = uni.oltLocked := by
  have hunis : (state.walkClass setup accepts false cls).1.uni cls =
      (shedWalk (shedWalker (setup.pack cls) (accepts cls) false) (state.uni cls)).1 := by
    simp [walkClass]
  rw [hunis, forall_mem_shedWalk]
  simp only [isSome_shedWalker]
  refine and_congr_left fun _ => forall₂_congr fun uni huni => ?_
  have hmem : uni ∈ state.uni cls := (List.takeWhile_sublist _).subset huni
  have hpasses : restorable (setup.pack cls) (accepts cls) uni = true :=
    List.mem_takeWhile_imp huni
  rw [← isSome_shedWalker, Option.isSome_iff_exists] at hpasses
  obtain ⟨walked, hwalk⟩ := hpasses
  rw [hwalk]
  simp only [Option.mem_def, Option.some.injEq, forall_eq']
  rcases shedWalker_cases hwalk with ⟨htarget, rfl⟩ | ⟨hnone, rfl⟩
  · have hsheds : setup.Sheds cls uni := ⟨hcls, htarget⟩
    exact ⟨fun h _ => h.symm, fun h => (h hsheds).symm⟩
  · have hnot : ¬ setup.Sheds cls walked := by
      rintro ⟨-, override, hpack, hover⟩
      exact absurd (hnone override hpack) (by simp [hover])
    exact ⟨fun _ hsheds => absurd hsheds hnot, fun _ => hkept walked hmem hnot⟩

theorem walkClass_end_iff {cls : ShedClass} :
    (state.walkClass setup accepts false cls).2 = true ↔ state.stopped setup accepts cls = [] := by
  unfold walkClass stopped
  dsimp only
  rw [shedWalk_end]
  simp only [isSome_shedWalker]

theorem walkClass_voice (setup : ShedSetup) (accepts : ShedClass → UniId → Bool)
    (state : ShedState) (lock : Bool) :
    ((state.walkClass setup accepts lock .data).1.walkClass setup accepts lock .voice).1.uni =
        Function.update (state.walkClass setup accepts lock .data).1.uni .voice
          ((state.walkClass setup accepts lock .voice).1.uni .voice) ∧
      ((state.walkClass setup accepts lock .data).1.walkClass setup accepts lock .voice).2 =
        (state.walkClass setup accepts lock .voice).2 := by
  simp [walkClass]

theorem forall_shedClass {P : ShedClass → Prop} : (∀ cls, P cls) ↔ P .data ∧ P .voice := by
  refine ⟨fun hall => ⟨hall .data, hall .voice⟩, fun hboth cls => ?_⟩
  cases cls with
  | data => exact hboth.1
  | voice => exact hboth.2

/-- After a restore nothing is shed exactly if `RestoresAll` held before it. -/
theorem disable_unshed_iff (accepts : ShedClass → UniId → Bool) (state : ShedState)
    (hkept : ∀ cls, ∀ uni ∈ state.uni cls, ¬ setup.Sheds cls uni → uni.locked = uni.oltLocked) :
    (state.handle setup accepts .disable).Unshed ↔ state.RestoresAll setup accepts := by
  have hdata := walkClass_unshed_iff accepts .data nofun (hkept .data)
  have hvoiceUnis : (state.walkClass setup accepts false .data).1.uni .voice = state.uni .voice :=
    by simp [walkClass]
  simp only [handle, shedDisableTimeoutHandle, RestoresAll, Unshed, forall_shedClass]
  by_cases hend : (state.walkClass setup accepts false .data).2 = true
  · have hnil := walkClass_end_iff.mp hend
    rw [hnil] at hdata
    rw [if_pos hend, if_pos hnil]
    by_cases hvoip : setup.voip = true
    · have hvoice := walkClass_unshed_iff accepts .voice (fun _ => hvoip)
        (hkept .voice)
      obtain ⟨hunis, hsame⟩ := walkClass_voice setup accepts state false
      rw [if_pos hvoip, hsame]
      by_cases hvend : (state.walkClass setup accepts false .voice).2 = true
      · have hvnil := walkClass_end_iff.mp hvend
        rw [hvnil] at hvoice
        rw [if_pos hvend]
        simp [hunis, hdata, hvoice, hvoip, hvnil]
      · have hvrest := mt walkClass_end_iff.mpr hvend
        rw [if_neg hvend]
        have hstatus : ((state.walkClass setup accepts false .data).1.walkClass setup accepts
            false .voice).1.status = state.status := rfl
        simp [hunis, hdata, hvoice, hvoip, hvrest, hstatus, StopsUnshed, and_assoc]
    · have hvoice : ∀ uni ∈ state.uni .voice, uni.locked = uni.oltLocked :=
        fun uni huni => hkept .voice uni huni fun hsheds => hvoip (hsheds.1 rfl)
      rw [if_neg hvoip]
      simp only [hvoiceUnis, hdata, hvoip]
      exact ⟨fun h => ⟨h.1.1.1, nofun⟩, fun h => ⟨⟨⟨h.1, nofun⟩, hvoice⟩, trivial⟩⟩
  · have hrest := mt walkClass_end_iff.mpr hend
    have hstatus : (state.walkClass setup accepts false .data).1.status = state.status := rfl
    rw [if_neg hend, if_neg hrest, hvoiceUnis, hdata, hstatus, StopsUnshed]
    tauto

/-! ## Runs -/

/-- The callback for a loss adds timers, for voice UNIs only if these are shed. -/
theorem acPowerOffCb_frame (setup : ShedSetup) (memory : ShedClass → Bool) (state : ShedState) :
    ∃ timers, acPowerOffCb setup memory state = { state with timers } ∧
      ∀ timer ∈ timers, timer ∈ state.timers ∨
        (timer.handler = .enable .voice → setup.voip = true) := by
  have hstart : ∀ (cls : ShedClass) {before after : ShedState},
      (cls = .voice → setup.voip = true) →
      before.shedStart (memory cls) cls = some after →
      ∃ timers, after = { before with timers } ∧ ∀ timer ∈ timers, timer ∈ before.timers ∨
        (timer.handler = .enable .voice → setup.voip = true) := by
    intro cls before after hcls hsome
    unfold shedStart timeoutAdd at hsome
    dsimp only at hsome
    split at hsome
    · obtain rfl := Option.some.inj hsome
      exact ⟨_, rfl, fun timer hmem => .inl hmem⟩
    · split at hsome
      · obtain rfl := Option.some.inj hsome
        refine ⟨_, rfl, fun timer hmem => ?_⟩
        rcases (List.mem_orderedInsert _).mp hmem with rfl | hold
        · exact .inr fun hvoice => hcls (ShedHandler.enable.inj hvoice)
        · exact .inl hold
      · cases hsome
  unfold acPowerOffCb
  cases hdata : state.shedStart (memory .data) .data with
  | none => exact ⟨_, rfl, fun timer hmem => .inl hmem⟩
  | some started =>
      obtain ⟨timers, rfl, hmem⟩ := hstart .data nofun hdata
      dsimp only
      by_cases hvoip : setup.voip = true
      · rw [if_pos hvoip]
        cases hvoice : shedStart { state with timers } (memory .voice) .voice with
        | none => exact ⟨timers, rfl, hmem⟩
        | some started =>
            obtain ⟨timers', rfl, hmem'⟩ := hstart .voice (fun _ => hvoip) hvoice
            refine ⟨timers', rfl, fun timer htimer => ?_⟩
            exact (hmem' timer htimer).elim (hmem timer) .inr
      · rw [if_neg hvoip]
        exact ⟨timers, rfl, hmem⟩

theorem acPowerOnCb_frame (memory : Bool) (state : ShedState) :
    ∃ timers, acPowerOnCb memory state = { state with timers } ∧
      ∀ timer ∈ timers, timer ∈ state.timers ∨ timer.handler = .disable := by
  unfold acPowerOnCb timeoutAdd
  cases memory with
  | false => exact ⟨_, rfl, fun timer hmem => .inl hmem⟩
  | true =>
      refine ⟨_, rfl, fun timer hmem => ?_⟩
      rcases (List.mem_orderedInsert _).mp hmem with rfl | hold
      · exact .inr rfl
      · exact .inl hold

theorem oltSet_unshed {accepts : UniId → Bool} {lock : Bool} {uni : Uni}
    (hequal : uni.locked = uni.oltLocked) :
    (oltSet accepts lock uni).locked = (oltSet accepts lock uni).oltLocked := by
  unfold oltSet adminStateWrite
  split_ifs with hsame haccepts
  · exact hsame
  · rfl
  · exact hequal

theorem oltSet_id {accepts : UniId → Bool} {lock : Bool} {uni : Uni} :
    (oltSet accepts lock uni).id = uni.id := by
  unfold oltSet adminStateWrite
  split_ifs <;> rfl

/-- A setting of the OLT keeps what holds of UNIs that are as it wants them. -/
theorem forall_setAdminState {P : ShedClass → Uni → Prop} {cls : ShedClass} {uniId : UniId}
    {lock : Bool} {accepts : UniId → Bool}
    (hset : ∀ uni, P cls uni → P cls (oltSet accepts lock uni))
    (hall : ∀ cls, ∀ uni ∈ state.uni cls, P cls uni) :
    ∀ cls', ∀ uni ∈ Function.update state.uni cls ((state.uni cls).map fun uni =>
      if uni.id = uniId then oltSet accepts lock uni else uni) cls', P cls' uni := by
  intro cls' uni huni
  by_cases hcls : cls' = cls
  · subst hcls
    rw [Function.update_self, List.mem_map] at huni
    obtain ⟨old, hold, rfl⟩ := huni
    split
    · exact hset old (hall cls' old hold)
    · exact hall cls' old hold
  · rw [Function.update_of_ne hcls] at huni
    exact hall cls' uni huni

/-- What an expiry does. -/
theorem expire_cases {accepts : ShedClass → UniId → Bool}
    (hstep : shedStep setup before (.expire accepts) = some after) :
    ∃ timer rest, before.timers = timer :: rest ∧
      after = ShedState.handle setup accepts
        { before with
          timers := rest
          restored := before.restored ||
            (before.acPresent && timer.handler = .disable && timer.period = before.losses) }
        timer.handler := by
  rw [shedStep] at hstep
  cases htimers : before.timers with
  | nil => simp [htimers] at hstep
  | cons timer rest =>
      simp only [htimers] at hstep
      obtain ⟨_, hafter⟩ := Option.ite_none_right_eq_some.mp hstep
      exact ⟨timer, rest, rfl, (Option.some.inj hafter).symm⟩

/-- Every step keeps what holds of every run. -/
theorem Sound.step (h : before.Sound setup) {event : ShedEvent}
    (hstep : shedStep setup before event = some after) : after.Sound setup := by
  cases event with
  | tick elapsed | setShedInterval cls interval | setRestoreInterval interval =>
      obtain rfl := Option.some.inj hstep
      exact ⟨h.kept, h.voice, h.present⟩
  | acOff memory =>
      obtain rfl := Option.some.inj hstep
      obtain ⟨timers, hafter, htimers⟩ := acPowerOffCb_frame setup memory
        { before with acPresent := false, losses := before.losses + 1, restored := false }
      rw [hafter]
      exact ⟨h.kept, fun timer hmem => (htimers timer hmem).elim (h.voice timer) id, nofun⟩
  | acOn memory =>
      obtain rfl := Option.some.inj hstep
      obtain ⟨timers, hafter, htimers⟩ := acPowerOnCb_frame memory
        { before with acPresent := true }
      rw [hafter]
      refine ⟨h.kept, fun timer hmem hvoice => ?_, fun _ => rfl⟩
      rcases htimers timer hmem with hold | hdisable
      · exact h.voice timer hold hvoice
      · cases hdisable.symm.trans hvoice
  | expire accepts =>
      obtain ⟨timer, rest, htimers, rfl⟩ := expire_cases hstep
      have hvoice := h.voice timer (htimers ▸ List.mem_cons_self)
      obtain ⟨uni, status, hafter⟩ := handle_frame setup accepts
        { before with
          timers := rest
          restored := before.restored ||
            (before.acPresent && timer.handler = .disable && timer.period = before.losses) }
        timer.handler
      refine ⟨handle_kept hvoice h.kept, ?_, ?_⟩
      · rw [hafter]
        exact fun timer' hmem => h.voice timer' (htimers ▸ List.mem_cons_of_mem _ hmem)
      · rw [hafter]
        intro hrestored
        rcases (Bool.or_eq_true _ _).mp hrestored with hold | hnew
        · exact h.present hold
        · simp only [Bool.and_eq_true] at hnew
          exact hnew.1.1
  | setAdminState cls uniId lock accepts =>
      obtain rfl := Option.some.inj hstep
      refine ⟨forall_setAdminState ?_ h.kept, h.voice, h.present⟩
      intro uni hkept hsheds
      exact oltSet_unshed (hkept (by simpa only [ShedSetup.Sheds, oltSet_id] using hsheds))

/-- An expiry keeps to what it should exactly under its condition. -/
theorem expire_kept_iff {accepts : ShedClass → UniId → Bool} (h : before.Sound setup)
    (hrestored : before.restored = true → before.Unshed)
    (hstep : shedStep setup before (.expire accepts) = some after) :
    SheddingKept setup before (.expire accepts) after ↔
      before.ExpiresWell setup (.expire accepts) := by
  obtain ⟨timer, rest, htimers, rfl⟩ := expire_cases hstep
  have hvoice := h.voice timer (htimers ▸ List.mem_cons_self)
  have hoverridden : ∀ (popped : ShedState), popped.uni = before.uni → ∀ cls override,
      setup.pack cls = .one override →
      List.Forall₂ (fun uni uni' => override.getMsbD (uni.id.port - 1) = true → uni' = uni)
        (before.uni cls) ((popped.handle setup accepts timer.handler).uni cls) := by
    intro popped hunis cls override hpack
    rw [← hunis]
    exact handle_overridden hvoice hpack
  have hsteady : ∀ (popped : ShedState),
      (popped.handle setup accepts timer.handler).restored = popped.restored := by
    intro popped
    obtain ⟨uni, status, hafter⟩ := handle_frame setup accepts popped timer.handler
    rw [hafter]
  simp only [ExpiresWell, htimers, List.head?_cons, Option.mem_def, Option.some.injEq, forall_eq']
  cases hhandler : timer.handler with
  | enable cls =>
      have hnot : (before.restored || (before.acPresent &&
          decide (ShedHandler.enable cls = .disable) && decide (timer.period = before.losses))) =
          before.restored := by simp
      rw [hhandler] at hoverridden hsteady
      simp only [hnot]
      by_cases hpresent : before.acPresent = true
      · have hiff := enable_kept_iff setup accepts { before with timers := rest } cls hrestored
        constructor
        · intro hkept _
          exact hiff.mp ⟨hkept.present accepts rfl hpresent,
            fun hrest => hkept.restored ((hsteady _).trans hrest)⟩
        · intro hnone
          obtain ⟨hlocks, hrest⟩ := hiff.mpr (hnone hpresent)
          exact ⟨fun _ _ _ => hlocks, by
            rintro _ ⟨⟩
            exact hoverridden { before with timers := rest } rfl,
            fun hafter => hrest ((hsteady _).symm.trans hafter)⟩
      · refine iff_of_true ⟨fun _ _ hhere => absurd hhere hpresent, ?_, fun hafter => ?_⟩
          fun hhere => absurd hhere hpresent
        · rintro _ ⟨⟩
          exact hoverridden { before with timers := rest } rfl
        · rw [hsteady] at hafter
          exact absurd (h.present hafter) hpresent
  | disable =>
      rw [hhandler] at hoverridden hsteady
      have hiff := disable_unshed_iff accepts
        { before with
          timers := rest
          restored := before.restored || (before.acPresent &&
            decide (ShedHandler.disable = .disable) && decide (timer.period = before.losses)) }
        h.kept
      have hcond : (before.restored || (before.acPresent &&
            decide (ShedHandler.disable = .disable) && decide (timer.period = before.losses))) =
          true ↔ before.restored = true ∨
            before.acPresent = true ∧ timer.period = before.losses := by simp
      constructor
      · intro hkept hrest
        exact hiff.mp (hkept.restored ((hsteady _).trans (hcond.mpr hrest)))
      · intro hrestores
        have hlocks : ∀ (popped : ShedState), popped.uni = before.uni → ∀ cls,
            List.Forall₂ (fun uni uni' => uni'.locked = true → uni.locked = true)
              (before.uni cls) ((popped.handle setup accepts .disable).uni cls) := by
          intro popped hunis
          rw [← hunis]
          exact disable_present popped
        refine ⟨fun _ _ _ => hlocks _ rfl, ?_, fun hafter => ?_⟩
        · rintro _ ⟨⟩
          exact hoverridden _ rfl
        · exact hiff.mpr (hrestores (hcond.mp ((hsteady _).symm.trans hafter)))

/-- Any other step keeps to it. -/
theorem step_kept_of_ne {event : ShedEvent} (hne : ∀ accepts, event ≠ .expire accepts)
    (hrestored : before.restored = true → before.Unshed)
    (hstep : shedStep setup before event = some after) : SheddingKept setup before event after := by
  refine ⟨fun accepts he => absurd he (hne accepts), fun accepts he => absurd he (hne accepts), ?_⟩
  cases event with
  | tick elapsed | setShedInterval cls interval | setRestoreInterval interval =>
      obtain rfl := Option.some.inj hstep
      exact hrestored
  | acOff memory =>
      obtain rfl := Option.some.inj hstep
      obtain ⟨timers, hafter, _⟩ := acPowerOffCb_frame setup memory
        { before with acPresent := false, losses := before.losses + 1, restored := false }
      rw [hafter]
      exact nofun
  | acOn memory =>
      obtain rfl := Option.some.inj hstep
      obtain ⟨timers, hafter, _⟩ := acPowerOnCb_frame memory
        { before with acPresent := true }
      rw [hafter]
      exact hrestored
  | expire accepts => exact absurd rfl (hne accepts)
  | setAdminState cls uniId lock accepts =>
      obtain rfl := Option.some.inj hstep
      intro hrest
      obtain ⟨hequal, hstatus⟩ := hrestored hrest
      exact ⟨forall_setAdminState (fun _ => oltSet_unshed) hequal, hstatus⟩

theorem sound_shedInit (uni : ShedClass → List (UniId × Bool)) (restoreInterval : BitVec 16)
    (shedInterval : ShedClass → BitVec 16) :
    (shedInit uni restoreInterval shedInterval).Sound setup := by
  refine ⟨fun cls uni huni _ => ?_, nofun, nofun⟩
  obtain ⟨entry, _, rfl⟩ := List.mem_map.mp huni
  rfl

end ShedState

/-- In every run shedding locks no UNI while AC power is present, changes none whose override
bit is set, and leaves nothing shed after a restore with power present throughout, if and only
if every expiry meets `ExpiresWell`. -/
theorem shedding_kept_iff (setup : ShedSetup) (uni : ShedClass → List (UniId × Bool))
    (restoreInterval : BitVec 16) (shedInterval : ShedClass → BitVec 16) (events : List ShedEvent) :
    Along (shedStep setup) (SheddingKept setup) (shedInit uni restoreInterval shedInterval)
        events ↔
      Along (shedStep setup) (fun before event _ => before.ExpiresWell setup event)
        (shedInit uni restoreInterval shedInterval) events := by
  have hstart : (shedInit uni restoreInterval shedInterval).Settled setup :=
    ⟨ShedState.sound_shedInit uni restoreInterval shedInterval, nofun⟩
  refine along_iff_guard ?_ hstart events
  rintro before event after ⟨hsound, hrestored⟩ hstep
  have hafter := hsound.step hstep
  by_cases hexpire : ∃ accepts, event = .expire accepts
  · obtain ⟨accepts, rfl⟩ := hexpire
    have hiff := ShedState.expire_kept_iff hsound hrestored hstep
    exact ⟨hiff, fun hwell => ⟨hafter, (hiff.mpr hwell).restored⟩⟩
  · have hkept := ShedState.step_kept_of_ne (fun accepts he => hexpire ⟨accepts, he⟩) hrestored
      hstep
    refine ⟨iff_of_true hkept ?_, fun _ => ⟨hafter, hkept.restored⟩⟩
    cases event with
    | expire accepts => exact absurd ⟨accepts, rfl⟩ hexpire
    | _ => exact trivial

def sampleUni : UniId := ⟨0x0101, by decide, by decide⟩

def sampleSetup : ShedSetup := ⟨fun _ => .one 0, false⟩

def sampleShed : ShedState :=
  shedInit (fun cls => if cls = .data then [(sampleUni, false)] else []) 1 fun _ => 10

/-- Power is back after two seconds; the restore timer expires first, the shedding timer of ten
seconds after it. -/
def sampleOutage : List ShedEvent :=
  [.acOff fun _ => true, .tick 2000, .acOn true, .tick 1000, .expire fun _ _ => true,
    .tick 7000, .expire fun _ _ => true]

/-- A short outage locks an UNI long after AC power has returned. -/
theorem shedding_not_kept : (¬ ∀ setup uni restoreInterval shedInterval events,
      Along (shedStep setup) (SheddingKept setup) (shedInit uni restoreInterval shedInterval)
        events) ∧
    (execOn (shedStep sampleSetup) (fun _ _ => True) sampleShed sampleOutage).map
      (fun state => (state.acPresent, state.restored, state.uni .data, state.status)) =
      some (true, true, [⟨sampleUni, true, false⟩], 0x8000) := by
  have hrun : (execOn (shedStep sampleSetup) (fun _ _ => True) sampleShed sampleOutage).map
      (fun state => (state.acPresent, state.restored, state.uni .data, state.status)) =
      some (true, true, [⟨sampleUni, true, false⟩], 0x8000) := by decide +kernel
  refine ⟨fun hall => ?_, hrun⟩
  have hstatus : Along (shedStep sampleSetup) (fun _ _ after => after.restored = true →
      after.status = 0) sampleShed sampleOutage :=
    (hall sampleSetup _ 1 (fun _ => 10) sampleOutage).mono fun _ _ _ hkept hrestored =>
      (hkept.restored hrestored).2
  revert hstatus
  decide +kernel

end FalconGpon.Omci
