/-
# The locks of the multicast engine along a run

A thread calls the functions of the engine one after another, in any order and with any answers
of the device. While it handles a packet it holds the lock of the engine and calls only the
functions of the lists. A call that waits for itself, or that uses a freed entry, does not
return, and nothing comes after it.
-/

import FalconGpon.Api.McLocks

namespace FalconGpon.Api

open FalconGpon.Lib FalconGpon.Lib.Locking
open FalconGpon.Omci (AclEntry)

/-- The calls of the functions of the engine. -/
inductive McCall
  | groupEntriesClear (env : McEnv) (s : Option SubscrIdx)
  | groupEntriesBwTotalGet (s : Option SubscrIdx)
  | groupEntriesBwCurrGet (s : Option SubscrIdx)
  | groupEntriesUpdate (env : McEnv)
  | groupEntryAdd (env : McEnv) (s : Option SubscrIdx) (added : AddedGroup)
  | groupEntryRem (env : McEnv) (s : Option SubscrIdx) (added : AddedGroup)
  | groupEntryMatchFind (s : Option SubscrIdx) (group : McGroup)
  | groupEntrySrcAdd (s : Option SubscrIdx) (group : McGroup)
  | groupEntrySrcRem (env : McEnv) (s : Option SubscrIdx) (group : McGroup)
  | activeGroupsListGet (env : McEnv) (index : Nat)
  | lostGroupsListGet (index : Nat)
  | profileGet (index : Nat)
  | profileUpdate (meters : McMeterEnv) (index : Nat) (profile : McProfile) (rate : BitVec 32)
  | profileDaclUpdate (index : Nat) (acl : List AclEntry)
  | subscrGet (index : Nat)
  | subscrUpdate (env : McEnv) (index : Nat) (subscr : McSubscr)
  | subscrStatusGet (index : Nat)
  | subscrStatusReset (index : Nat)
  | exit (env : McEnv)
  /-- `mcc_pkt_handle` takes the lock of the engine. -/
  | pktBegin
  /-- It releases the lock. -/
  | pktEnd

namespace McCall

/-- The call as a program; the value it returns is left out. -/
def run : McCall → McProgram Unit
  | .groupEntriesClear env s => McControl.groupEntriesClear env s >>= fun _ => pure ()
  | .groupEntriesBwTotalGet s => McControl.groupEntriesBwTotalGet s >>= fun _ => pure ()
  | .groupEntriesBwCurrGet s => McControl.groupEntriesBwCurrGet s >>= fun _ => pure ()
  | .groupEntriesUpdate env => McControl.groupEntriesUpdate env >>= fun _ => pure ()
  | .groupEntryAdd env s added => McControl.groupEntryAdd env s added >>= fun _ => pure ()
  | .groupEntryRem env s added => McControl.groupEntryRem env s added >>= fun _ => pure ()
  | .groupEntryMatchFind s group => McControl.groupEntryMatchFind s group >>= fun _ => pure ()
  | .groupEntrySrcAdd s group => McControl.groupEntrySrcAdd s group >>= fun _ => pure ()
  | .groupEntrySrcRem env s group => McControl.groupEntrySrcRem env s group >>= fun _ => pure ()
  | .activeGroupsListGet env index =>
      McControl.activeGroupsListGet env index >>= fun _ => pure ()
  | .lostGroupsListGet index => McControl.lostGroupsListGet index >>= fun _ => pure ()
  | .profileGet index => McControl.profileGet index >>= fun _ => pure ()
  | .profileUpdate meters index profile rate =>
      McControl.profileUpdate meters index profile rate >>= fun _ => pure ()
  | .profileDaclUpdate index acl => McControl.profileDaclUpdate index acl >>= fun _ => pure ()
  | .subscrGet index => McControl.subscrGet index >>= fun _ => pure ()
  | .subscrUpdate env index subscr =>
      McControl.subscrUpdate env index subscr >>= fun _ => pure ()
  | .subscrStatusGet index => McControl.subscrStatusGet index >>= fun _ => pure ()
  | .subscrStatusReset index => McControl.subscrStatusReset index >>= fun _ => pure ()
  | .exit env => McControl.exit env >>= fun _ => pure ()
  | .pktBegin => lockGet .engine >>= fun _ => pure ()
  | .pktEnd => lockRelease .engine >>= fun _ => pure ()

/-- The functions the packet thread calls while it handles a packet. -/
def ofLists : McCall → Bool
  | .groupEntriesClear .. => true
  | .groupEntriesBwTotalGet .. => true
  | .groupEntriesBwCurrGet .. => true
  | .groupEntriesUpdate .. => true
  | .groupEntryAdd .. => true
  | .groupEntryRem .. => true
  | .groupEntryMatchFind .. => true
  | .groupEntrySrcAdd .. => true
  | .groupEntrySrcRem .. => true
  | _ => false

/-- Whether the packet thread handles a packet after the call. -/
def inPktAfter (inPkt : Bool) : McCall → Bool
  | .pktBegin => true
  | .pktEnd => false
  | _ => inPkt

/-- The locks the thread is to hold after the call: those it held, and the lock of the engine
while it handles a packet. -/
def heldAfter (held : McLock → Bool) : McCall → McLock → Bool
  | .pktBegin => Function.update held .engine true
  | .pktEnd => Function.update held .engine false
  | _ => held

/-- The call may be made: `pktBegin` and `pktEnd` are around the calls of the packet thread. -/
def enabled (inPkt : Bool) : McCall → Bool
  | .pktBegin => !inPkt
  | .pktEnd => inPkt
  | call => !inPkt || call.ofLists

end McCall

/-- The thread between two calls. -/
structure McThreadState where
  thread : McThread
  /-- The last call has returned. -/
  alive : Bool
  inPkt : Bool

namespace McThreadState

/-- One call. -/
def step (state : McThreadState) (call : McCall) : Option McThreadState :=
  if state.alive && call.enabled state.inPkt then
    some ⟨(call.run state.thread).2, (call.run state.thread).1.isSome,
      call.inPktAfter state.inPkt⟩
  else none

/-- The call asked for no lock the thread held, and if it has returned the thread holds the locks
it is to hold. -/
def LocksKept (before : McThreadState) (call : McCall) (after : McThreadState) : Prop :=
  after.thread.misused = false ∧
    (after.alive = true → after.thread.held = call.heldAfter before.thread.held)

/-- The condition for it: the device does not refuse to remove a group that a list is cleared of,
or one that loses its last source; a group that the device accepts has an entry or gets one; and
the engine is not shut down. -/
def Granted (before : McThreadState) : McCall → Prop
  | .groupEntriesClear env s =>
      McControl.Removable env (before.thread.data.engine.groupsList s).entries
  | .groupEntryAdd env s added =>
      McControl.Storable env (before.thread.data.engine.groupsList s).entries added
  | .groupEntrySrcRem env s group =>
      McControl.SrcRemovable env group (before.thread.data.engine.groupsList s).entries
  | .subscrUpdate env index subscr =>
      McControl.Replaceable env before.thread.data.engine index subscr
  | .exit _ => False
  | _ => True

/-- Between two calls the lock of the lists is free, and that of the engine is held while a packet
is handled. -/
structure Settled (state : McThreadState) : Prop where
  misused : state.thread.misused = false
  groups : state.alive = true → state.thread.held .groups = false
  engine : state.alive = true → state.thread.held .engine = state.inPkt

/-- A thread that has not called anything yet. -/
def init (engine : McEngine) : McThreadState where
  thread := ⟨⟨engine, fun _ => ⟨false, 0⟩, fun _ => ⟨0, 0, 0⟩, 0⟩, fun _ => false, false⟩
  alive := true
  inPkt := false

theorem settled_init (engine : McEngine) : (init engine).Settled where
  misused := rfl
  groups := fun _ => rfl
  engine := fun _ => rfl

variable {before after : McThreadState} {call : McCall}

/-- Which call asks for no lock the thread holds and leaves it with the locks it is to hold. -/
theorem Settled.ends_run (hsettled : before.Settled) (halive : before.alive = true)
    (henabled : call.enabled before.inPkt = true) :
    Ends call.run before.thread (call.heldAfter before.thread.held) ↔ before.Granted call := by
  have hmisused := hsettled.misused
  have hfree := hsettled.groups halive
  have hengine := hsettled.engine halive
  -- A function that is not one of the lists is called outside the handling of a packet.
  have houtside : (!before.inPkt || false) = true → before.thread.held .engine = false := by
    intro hcalled
    rw [hengine, ← Bool.not_eq_true', ← hcalled, Bool.or_false]
  cases call with
  | groupEntriesClear env s =>
      exact ends_discard.trans (McControl.kept_groupEntriesClear hmisused hfree)
  | groupEntriesBwTotalGet s =>
      exact iff_of_true
        (ends_discard.mpr (McControl.kept_groupEntriesBwTotalGet hmisused hfree)) trivial
  | groupEntriesBwCurrGet s =>
      exact iff_of_true
        (ends_discard.mpr (McControl.kept_groupEntriesBwCurrGet hmisused hfree)) trivial
  | groupEntriesUpdate env =>
      exact iff_of_true
        (ends_discard.mpr (McControl.kept_groupEntriesUpdate hmisused hfree)) trivial
  | groupEntryAdd env s added =>
      exact ends_discard.trans (McControl.kept_groupEntryAdd hmisused hfree added)
  | groupEntryRem env s added =>
      exact iff_of_true
        (ends_discard.mpr (McControl.kept_groupEntryRem hmisused hfree added)) trivial
  | groupEntryMatchFind s group =>
      exact iff_of_true
        (ends_discard.mpr (McControl.kept_groupEntryMatchFind hmisused hfree group)) trivial
  | groupEntrySrcAdd s group =>
      exact iff_of_true
        (ends_discard.mpr (McControl.kept_groupEntrySrcAdd hmisused hfree group)) trivial
  | groupEntrySrcRem env s group =>
      exact ends_discard.trans (McControl.kept_groupEntrySrcRem hmisused hfree group)
  | activeGroupsListGet env index =>
      exact iff_of_true
        (ends_discard.mpr (McControl.kept_activeGroupsListGet hmisused hfree index)) trivial
  | lostGroupsListGet index =>
      have hkept := McControl.kept_lostGroupsListGet hmisused hfree (houtside henabled) index
      exact iff_of_true (ends_discard.mpr hkept) trivial
  | profileGet index =>
      have hkept := McControl.kept_profileGet hmisused (houtside henabled) index
      exact iff_of_true (ends_discard.mpr hkept) trivial
  | profileUpdate meters index profile rate =>
      have hkept := McControl.kept_profileUpdate hmisused (houtside henabled) meters index
        profile rate
      exact iff_of_true (ends_discard.mpr hkept) trivial
  | profileDaclUpdate index acl =>
      have hkept := McControl.kept_profileDaclUpdate hmisused (houtside henabled) index acl
      exact iff_of_true (ends_discard.mpr hkept) trivial
  | subscrGet index =>
      have hkept := McControl.kept_subscrGet hmisused (houtside henabled) index
      exact iff_of_true (ends_discard.mpr hkept) trivial
  | subscrUpdate env index subscr =>
      exact ends_discard.trans
        (McControl.kept_subscrUpdate hmisused hfree (houtside henabled) index subscr)
  | subscrStatusGet index =>
      have hkept := McControl.kept_subscrStatusGet hmisused (houtside henabled) index
      exact iff_of_true (ends_discard.mpr hkept) trivial
  | subscrStatusReset index =>
      have hkept := McControl.kept_subscrStatusReset hmisused (houtside henabled) index
      exact iff_of_true (ends_discard.mpr hkept) trivial
  | exit env =>
      exact iff_of_false
        (fun h => McControl.not_kept_exit hfree (ends_discard.mp h)) id
  | pktBegin =>
      have hfreeEngine : before.thread.held .engine = false := by
        rw [hengine, ← Bool.not_eq_true']
        exact henabled
      exact iff_of_true
        ((ends_lockGet_free hfreeEngine).mpr ((ends_pure _).mpr ⟨hmisused, rfl⟩)) trivial
  | pktEnd => exact iff_of_true ((ends_pure _).mpr ⟨hmisused, rfl⟩) trivial

theorem Settled.heldAfter_groups (hsettled : before.Settled) (halive : before.alive = true) :
    call.heldAfter before.thread.held .groups = false := by
  have hfree := hsettled.groups halive
  cases call <;> exact hfree

theorem Settled.heldAfter_engine (hsettled : before.Settled) (halive : before.alive = true) :
    call.heldAfter before.thread.held .engine = call.inPktAfter before.inPkt := by
  have hengine := hsettled.engine halive
  cases call with
  | pktBegin => rfl
  | pktEnd => rfl
  | _ => exact hengine

/-- What one call does to the locks. -/
theorem Settled.step (hsettled : before.Settled) (hstep : before.step call = some after) :
    (before.LocksKept call after ↔ before.Granted call) ∧
      (before.Granted call → after.Settled) := by
  rw [McThreadState.step, Option.ite_none_right_eq_some, Bool.and_eq_true] at hstep
  have ⟨⟨halive, henabled⟩, hafter⟩ := hstep
  have hiff : before.LocksKept call after ↔ before.Granted call := by
    rw [← hsettled.ends_run halive henabled, ← Option.some.inj hafter]
    exact Iff.rfl
  have hinPkt : after.inPkt = call.inPktAfter before.inPkt := by
    rw [← Option.some.inj hafter]
  exact ⟨hiff, fun hgranted =>
    have hkept := hiff.mpr hgranted
    { misused := hkept.1
      groups := fun h => (congrFun (hkept.2 h) .groups).trans (hsettled.heldAfter_groups halive)
      engine := fun h => ((congrFun (hkept.2 h) .engine).trans
        (hsettled.heldAfter_engine halive)).trans hinPkt.symm }⟩

/-- No call asks for a lock the thread holds, and each leaves it with the locks it held, exactly
when each is granted what it asks of the device and of the memory, and the engine is not shut
down. -/
theorem locksKept_iff (engine : McEngine) (calls : List McCall) :
    Along McThreadState.step LocksKept (init engine) calls ↔
      Along McThreadState.step (fun before call _ => before.Granted call) (init engine) calls :=
  along_iff_guard (fun _ _ _ hsettled hstep => hsettled.step hstep) (settled_init engine) calls

/-- There is no memory for the first group. -/
theorem locksKept_not_right :
    ¬∀ calls, Along McThreadState.step LocksKept (init McEngine.init) calls := by
  intro h
  have hadd := (h [.groupEntryAdd
    ⟨none, none, none, fun _ => .success, false, fun _ => 0⟩ none
    ⟨⟨0xE0000001, .excludes, ⟨[], 0⟩, .na, 0⟩, 0, 0, false, 0, 0, 0⟩]).1
  exact Bool.true_eq_false.mp (congrFun (hadd.2 rfl) McLock.groups)

end McThreadState

end FalconGpon.Api
