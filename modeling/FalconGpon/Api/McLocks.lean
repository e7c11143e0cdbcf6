/-
# The locks of the multicast engine

The engine has a lock for its subscribers and profiles and one for its lists of groups. Every
function takes and releases them by hand; the packet thread holds the first one while it handles
a packet and calls the functions of the lists. The functions here are those of
`omci_api_mcc.c` with their locks, over the data of the multicast engine.

A function leaves by a path that does not release the lock of the lists where the device refuses
to remove a group, or where there is no memory for one. The shutdown takes that lock and then
calls a function that takes it again.
-/

import FalconGpon.Api.Multicast
import FalconGpon.Lib.Locking

namespace FalconGpon.Api

open FalconGpon.Lib FalconGpon.Lib.Locking
open FalconGpon.Omci (AclEntry omciApiMccMaxSubscribers)

/-- The locks of `struct mcc_ctx`. -/
inductive McLock
  /-- `lock`. -/
  | engine
  /-- `groups_list_lock`. -/
  | groups
deriving DecidableEq

/-- `struct mcc_profile_status`. -/
structure McProfileStatus where
  igmpPolicerEnabled : Bool
  igmpPolicerIndex : BitVec 32

/-- `struct omci_api_mcc_subscr_status`. -/
structure McSubscrStatus where
  currMcBw : BitVec 32
  joinMsgCnt : BitVec 32
  bwExcCnt : BitVec 32

/-- The engine and what is kept beside it. The lock of the lists is in the thread, so that
`engine.locked` is not used. -/
structure McControl where
  engine : McEngine
  profileStatus : SubscrIdx → McProfileStatus
  subscrStatus : SubscrIdx → McSubscrStatus
  usIgmpRate : BitVec 32

abbrev McThread := Locking McLock McControl

abbrev McProgram := Program McThread

/-- What the device answers to the functions of the rate limiter. -/
structure McMeterEnv where
  /-- `FIO_GPE_METER_CREATE`. -/
  create : Option (BitVec 32)
  cfgGet : Bool
  cfgSet : Bool
  delete : Bool

/-- `OMCI_API_MAX_AGL_ENTRIES`. -/
def omciApiMaxAglEntries : Nat := 50

/-- `OMCI_API_MAX_LGL_ENTRIES`. -/
def omciApiMaxLglEntries : Nat := 50

/-- `MCC_LOST_GROUPS_UPDATE_TIME_SEC`. -/
def mccLostGroupsUpdateTimeSec : Nat := 10

/-- `struct omci_api_mcc_active_group`, without the address of the client. -/
structure McActiveGroup where
  vlanId : BitVec 16
  sourceIp : BitVec 32
  mcDestIp : BitVec 32
  bestEffActBwEst : BitVec 32
  timeSinceJoin : BitVec 32

/-- `struct omci_api_mcc_lost_group`. -/
structure McLostGroup where
  addr : BitVec 32
  vlanId : BitVec 16

namespace McControl

def engineDo {α : Type} (x : McEngine → α × McEngine) (control : McControl) : α × McControl :=
  ((x control.engine).1, { control with engine := (x control.engine).2 })

def readEngine : McProgram McEngine :=
  perform (engineDo fun engine => (engine, engine))

def writeEngine (f : McEngine → McEngine) : McProgram Unit :=
  perform (engineDo fun engine => ((), f engine))

/-! ## Lists of groups -/

/-- The loop of `mcc_subscr_group_entries_clear`, with the value it returns if it does not come
to the end. -/
def clearLoop (env : McEnv) (s : Option SubscrIdx) :
    List AddedGroup → McEngine → Option McReturn × McEngine
  | [], engine => (none, engine)
  | added :: rest, engine =>
      match engine.shortFwdPortCtrl env false added.port with
      | (.error, engine) => (some .error, engine)
      | (_, engine) =>
          clearLoop env s rest (engine.setEntries s rest ((engine.groupsList s).entriesNum - 1))

/-- `mcc_subscr_group_entries_clear`. -/
def groupEntriesClear (env : McEnv) (s : Option SubscrIdx) : McProgram McReturn := do
  lockGet .groups
  match ← perform (engineDo fun engine =>
    clearLoop env s (engine.groupsList s).entries engine) with
  | some ret => return ret
  | none =>
      lockRelease .groups
      return .success

/-- `mcc_subscr_group_entries_bw_total_get`. -/
def groupEntriesBwTotalGet (s : Option SubscrIdx) : McProgram (BitVec 32) := do
  lockGet .groups
  let engine ← readEngine
  lockRelease .groups
  return ((engine.groupsList s).entries.map (·.bw)).sum

/-- `mcc_subscr_group_entries_bw_curr_get`. -/
def groupEntriesBwCurrGet (s : Option SubscrIdx) : McProgram (BitVec 32) := do
  lockGet .groups
  let engine ← readEngine
  lockRelease .groups
  return (engine.groupsList s).entries.foldl
    (fun bw added => if bw < added.bw then added.bw else bw) 0

/-- The loops of `mcc_subscr_group_entries_update`. -/
def updateEntries (now : Nat) (list : AddedGroupsList) : AddedGroupsList :=
  if list.entriesNum = 0 then list
  else { list with entries := list.entries.map fun added =>
    if added.lost then added
    else if (now : Int) - added.lastUpdate < mccLostGroupsUpdateTimeSec then added
    else { added with lastUpdate := now } }

/-- `mcc_subscr_group_entries_update`. -/
def groupEntriesUpdate (env : McEnv) : McProgram McReturn :=
  match env.clock with
  | none => return .error
  | some now => do
      lockGet .groups
      writeEngine fun engine =>
        { engine with groupsList := fun s => updateEntries now (engine.groupsList s) }
      lockRelease .groups
      return .success

/-- `mcc_subscr_group_entry_add`. -/
def groupEntryAdd (env : McEnv) (s : Option SubscrIdx) (added : AddedGroup) :
    McProgram McReturn := do
  match ← perform (engineDo fun engine => engine.shortFwdPortCtrl env true added.port) with
  | .error => return .error
  | _ =>
      lockGet .groups
      let engine ← readEngine
      let list := engine.groupsList s
      if list.entries.any (·.group.gAddr = added.group.gAddr) then
        writeEngine fun engine => engine.setEntries s
          (McEngine.touchFirst added.group.gAddr added.lastUpdate list.entries) list.entriesNum
        lockRelease .groups
        return .success
      else if env.memory then
        writeEngine fun engine => engine.setEntries s (list.entries ++ [added])
          (list.entriesNum + 1)
        lockRelease .groups
        return .success
      else return .noMemory

/-- `mcc_subscr_group_entry_rem`. -/
def groupEntryRem (env : McEnv) (s : Option SubscrIdx) (added : AddedGroup) :
    McProgram McReturn := do
  match ← perform (engineDo fun engine => engine.shortFwdPortCtrl env false added.port) with
  | .error => return .error
  | _ =>
      lockGet .groups
      writeEngine fun engine =>
        let list := engine.groupsList s
        let kept := list.entries.filter fun old => ¬old.group.Matches added.group
        engine.setEntries s kept (list.entriesNum - (list.entries.length - kept.length))
      lockRelease .groups
      return .success

/-- `mcc_subscr_group_entry_match_find`. -/
def groupEntryMatchFind (s : Option SubscrIdx) (group : McGroup) :
    McProgram (Option AddedGroup) := do
  lockGet .groups
  let engine ← readEngine
  match (engine.groupsList s).entries.find? (·.group.Matches group) with
  | some matched =>
      lockRelease .groups
      return some matched
  | none =>
      lockRelease .groups
      return none

/-- `mcc_subscr_group_entry_src_add`. -/
def groupEntrySrcAdd (s : Option SubscrIdx) (group : McGroup) : McProgram McReturn := do
  lockGet .groups
  let engine ← readEngine
  let list := engine.groupsList s
  let added := fun old : McGroup =>
    McEngine.srcListAdd (group.sAddrList.sAddr.take group.sAddrList.sAddrNum) old.sAddrList
  writeEngine fun engine => engine.setEntries s
    (list.entries.map fun old =>
      if old.group.Matches group then
        { old with group := { old.group with
            sAddrListState := group.sAddrListState, sAddrList := (added old.group).2 } }
      else old) list.entriesNum
  lockRelease .groups
  if list.entries.any fun old => old.group.Matches group && !(added old.group).1 then
    return .error
  else return .success

/-- How the loop over the entries in `mcc_subscr_group_entry_src_rem` ends. -/
inductive SrcRemEnd
  /-- The function is left from the loop. -/
  | left (ret : McReturn)
  | finished (ret : McReturn)
  /-- The entry that was freed is used. -/
  | crashed
deriving DecidableEq

/-- The loop over the entries in `mcc_subscr_group_entry_src_rem`. `done` has the entries
before. An entry without sources is freed; the loop over the new addresses goes on all the same,
and uses it if there is one more. -/
def srcRemLoop (env : McEnv) (s : Option SubscrIdx) (group : McGroup) :
    List AddedGroup → List AddedGroup → McReturn → McEngine → SrcRemEnd × McEngine
  | _, [], ret, engine => (.finished ret, engine)
  | done, old :: rest, ret, engine =>
      let list := engine.groupsList s
      let news := group.sAddrList.sAddr.take group.sAddrList.sAddrNum
      let changed := fun sources => { old with group := { old.group with
        sAddrListState := group.sAddrListState, sAddrList := sources } }
      if old.group.Matches group then
        match McEngine.srcListRem env 0 news old.group.sAddrList with
        | .kept sources =>
            srcRemLoop env s group (done ++ [changed sources]) rest ret
              (engine.setEntries s (done ++ changed sources :: rest) list.entriesNum)
        | .empty i sources =>
            match engine.shortFwdPortCtrl env false old.port with
            | (.error, engine) =>
                (.left .error,
                  engine.setEntries s (done ++ changed sources :: rest) list.entriesNum)
            | (answer, engine) =>
                if i + 1 < news.length then
                  (.crashed, engine.setEntries s (done ++ rest) (list.entriesNum - 1))
                else srcRemLoop env s group done rest
                  (if answer = .success then .success else .notAvailable)
                  (engine.setEntries s (done ++ rest) (list.entriesNum - 1))
      else srcRemLoop env s group (done ++ [old]) rest ret engine

/-- `mcc_subscr_group_entry_src_rem`. -/
def groupEntrySrcRem (env : McEnv) (s : Option SubscrIdx) (group : McGroup) :
    McProgram McReturn := do
  lockGet .groups
  match ← perform (engineDo fun engine =>
    srcRemLoop env s group [] (engine.groupsList s).entries .success engine) with
  | .left ret => return ret
  | .crashed => Program.fail
  | .finished ret =>
      lockRelease .groups
      return ret

/-- The entries of `omci_api_mcc_active_groups_list_get` for a group: one for each source, and
one if there is none. -/
def activeGroups (now : Nat) (added : AddedGroup) : List McActiveGroup :=
  let sources := added.group.sAddrList
  (List.range (if sources.sAddrNum = 0 then 1 else sources.sAddrNum)).map fun i =>
    ⟨added.group.vlan, sources.sAddr.getD i 0, added.group.gAddr, 0,
      BitVec.ofInt 32 ((now : Int) - added.ts)⟩

/-- `omci_api_mcc_active_groups_list_get`. -/
def activeGroupsListGet (env : McEnv) (index : Nat) : McProgram (McReturn × List McActiveGroup) :=
  if hindex : index < omciApiMccMaxSubscribers then
    match env.clock with
    | none => return (.error, [])
    | some now => do
        lockGet .groups
        let engine ← readEngine
        let entries := (engine.groupsList (some ⟨index, hindex⟩)).entries
        let active := (entries.filter fun added => !added.lost).flatMap (activeGroups now)
        lockRelease .groups
        return (if active.length ≤ omciApiMaxAglEntries then .success else .error,
          active.take omciApiMaxAglEntries)
  else return (.error, [])

/-- The entries of `omci_api_mcc_lost_groups_list_get` for a group: one for each row of the
ACL. -/
def lostGroups (acl : List AclEntry) (added : AddedGroup) : List McLostGroup :=
  (acl.filter fun row =>
    row.destStartIp ≤ added.group.gAddr ∧ added.group.gAddr ≤ row.destEndIp ∧
      added.group.vlan &&& 0xFFF = row.vlanId).map fun _ =>
    ⟨added.group.gAddr, added.group.vlan &&& 0xFFF⟩

/-- `omci_api_mcc_lost_groups_list_get`. -/
def lostGroupsListGet (index : Nat) : McProgram (McReturn × List McLostGroup) :=
  if hindex : index < omciApiMccMaxSubscribers then do
    lockGet .engine
    lockGet .groups
    let engine ← readEngine
    let acl := (engine.profile ⟨index, hindex⟩).dynamicAcl
    if acl.isEmpty then
      lockRelease .groups
      lockRelease .engine
      return (.success, [])
    else
      let users := (List.finRange omciApiMccMaxSubscribers).filter fun s =>
        (engine.subscr s).profileIdx.toNat = index
      let lost := users.flatMap fun s =>
        ((engine.groupsList (some s)).entries.filter (·.lost)).flatMap (lostGroups acl)
      if omciApiMaxLglEntries ≤ lost.length then
        lockRelease .groups
        lockRelease .engine
        return (.noMemory, [])
      else
        lockRelease .groups
        lockRelease .engine
        return (.success, lost)
  else return (.error, [])

/-! ## Profiles and subscribers -/

/-- `omci_api_mcc_profile_get`. -/
def profileGet (index : Nat) : McProgram (Option McProfile) :=
  if hindex : index < omciApiMccMaxSubscribers then do
    let profile ← locked .engine fun control =>
      (control.engine.profile ⟨index, hindex⟩, control)
    return some profile
  else return none

/-- `mcc_igmp_rate_limiter_set`. -/
def igmpRateLimiterSet (env : McMeterEnv) : McReturn :=
  if env.cfgGet && env.cfgSet then .success else .error

def setStatus (control : McControl) (p : SubscrIdx) (status : McProfileStatus) : McControl :=
  { control with profileStatus := Function.update control.profileStatus p status }

/-- The rate limiter in `omci_api_mcc_profile_update`. -/
def rateLimiterUpdate (env : McMeterEnv) (p : SubscrIdx) (valid : Bool) (rate : BitVec 32)
    (control : McControl) : McReturn × McControl :=
  let status := control.profileStatus p
  if valid then
    let control := { control with usIgmpRate := rate }
    if status.igmpPolicerEnabled then
      match igmpRateLimiterSet env with
      | .success => (.success, control.setStatus p { status with igmpPolicerEnabled := rate ≠ 0 })
      | ret => (ret, control)
    else if rate ≠ 0 then
      match env.create with
      | none => (.error, control)
      | some rlIdx =>
          match igmpRateLimiterSet env with
          | .success => (.success, control.setStatus p ⟨rate ≠ 0, rlIdx⟩)
          | ret => (ret, control)
    else (.success, control)
  else
    let control := { control with usIgmpRate := 0 }
    if status.igmpPolicerEnabled then
      if env.delete then
        (.success, control.setStatus p { status with igmpPolicerEnabled := false })
      else (.error, control)
    else (.success, control)

/-- `omci_api_mcc_profile_update`. -/
def profileUpdate (env : McMeterEnv) (index : Nat) (profile : McProfile) (rate : BitVec 32) :
    McProgram McReturn :=
  if hindex : index < omciApiMccMaxSubscribers then do
    match ← perform (rateLimiterUpdate env ⟨index, hindex⟩ profile.valid rate) with
    | .success =>
        locked .engine (engineDo fun engine => ((), { engine with
          profile := Function.update engine.profile ⟨index, hindex⟩ profile }))
        return .success
    | ret => return ret
  else return .error

/-- `omci_api_mcc_profile_dacl_update`. -/
def profileDaclUpdate (index : Nat) (acl : List AclEntry) : McProgram McReturn :=
  if hindex : index < omciApiMccMaxSubscribers then do
    let p : SubscrIdx := ⟨index, hindex⟩
    locked .engine (engineDo fun engine => ((), { engine with
      profile := Function.update engine.profile p
        { engine.profile p with dynamicAcl := acl } }))
    return .success
  else return .error

/-- `omci_api_mcc_subscr_get`. -/
def subscrGet (index : Nat) : McProgram (Option McSubscr) :=
  if hindex : index < omciApiMccMaxSubscribers then do
    let subscr ← locked .engine fun control =>
      (control.engine.subscr ⟨index, hindex⟩, control)
    return some subscr
  else return none

def setSubscr (s : SubscrIdx) (subscr : McSubscr) : McControl → Unit × McControl :=
  engineDo fun engine => ((), { engine with subscr := Function.update engine.subscr s subscr })

/-- The check of the profile in `omci_api_mcc_subscr_update`. -/
def ProfileAccepted (subscr : McSubscr) : Prop :=
  subscr.profileIdx.toNat < omciApiMccMaxSubscribers ∨ subscr.profileIdx = 0xFF
deriving Decidable

/-- `omci_api_mcc_subscr_update`; attaching and detaching a rate limiter does nothing. -/
def subscrUpdate (env : McEnv) (index : Nat) (subscr : McSubscr) : McProgram McReturn :=
  if hindex : index < omciApiMccMaxSubscribers then
    let s : SubscrIdx := ⟨index, hindex⟩
    if ProfileAccepted subscr then do
      let engine ← readEngine
      if (engine.subscr s).valid then
        locked .engine (setSubscr s { engine.subscr s with valid := false })
        let _ ← groupEntriesClear env (some s)
        locked .engine (setSubscr s subscr)
        return .success
      else
        locked .engine (setSubscr s subscr)
        return .success
    else return .error
  else return .error

/-- `omci_api_mcc_subscr_status_get`. -/
def subscrStatusGet (index : Nat) : McProgram (Option McSubscrStatus) :=
  if hindex : index < omciApiMccMaxSubscribers then do
    let status ← locked .engine fun control =>
      (control.subscrStatus ⟨index, hindex⟩, control)
    return some status
  else return none

/-- `omci_api_mcc_subscr_status_reset`. -/
def subscrStatusReset (index : Nat) : McProgram McReturn :=
  if hindex : index < omciApiMccMaxSubscribers then do
    locked .engine fun control => ((), { control with
      subscrStatus := Function.update control.subscrStatus ⟨index, hindex⟩ ⟨0, 0, 0⟩ })
    return .success
  else return .error

/-! ## Shutdown -/

/-- The calls of `mcc_subscr_group_entries_clear` in `mcc_exit`; their values are not used. -/
def exitClear (env : McEnv) : List (Option SubscrIdx) → McProgram Unit
  | [] => return
  | s :: rest => do
      let _ ← groupEntriesClear env s
      exitClear env rest

/-- `mcc_exit`, from where it takes the lock of the lists to where it releases it; both locks are
deleted after it. -/
def exit (env : McEnv) : McProgram McReturn := do
  lockGet .groups
  exitClear env ((List.finRange omciApiMccMaxSubscribers).map some ++ [none])
  lockRelease .groups
  return .success

/-! ## How the functions end -/

def Removable (env : McEnv) (entries : List AddedGroup) : Prop :=
  ∀ added ∈ entries, env.port added.port ≠ .error

instance (env : McEnv) (entries : List AddedGroup) : Decidable (Removable env entries) :=
  inferInstanceAs (Decidable (∀ added ∈ entries, env.port added.port ≠ .error))

def Storable (env : McEnv) (entries : List AddedGroup) (added : AddedGroup) : Prop :=
  env.port added.port ≠ .error →
    (∃ old ∈ entries, old.group.gAddr = added.group.gAddr) ∨ env.memory = true

/-- The device refuses to remove no group that loses its last source, up to where the process
ends. -/
def SrcRemovable (env : McEnv) (group : McGroup) : List AddedGroup → Prop
  | [] => True
  | old :: rest =>
      let news := group.sAddrList.sAddr.take group.sAddrList.sAddrNum
      if old.group.Matches group then
        match McEngine.srcListRem env 0 news old.group.sAddrList with
        | .kept _ => SrcRemovable env group rest
        | .empty i _ =>
            env.port old.port ≠ .error ∧ (i + 1 < news.length ∨ SrcRemovable env group rest)
      else SrcRemovable env group rest

variable {t : McThread} {env : McEnv} {s : Option SubscrIdx} {held : McLock → Bool}

theorem ends_readEngine {α : Type} {f : McEngine → McProgram α} :
    Ends (readEngine >>= f) t held ↔ Ends (f t.data.engine) t held :=
  Iff.rfl

theorem fst_shortFwdPortCtrl (engine : McEngine) (add : Bool) (port : McPort) :
    (engine.shortFwdPortCtrl env add port).1 = env.port port :=
  rfl

theorem fst_clearLoop (entries : List AddedGroup) (engine : McEngine) :
    (clearLoop env s entries engine).1 = none ↔ Removable env entries := by
  induction entries generalizing engine with
  | nil => exact ⟨nofun, fun _ => rfl⟩
  | cons added rest ih =>
      rw [Removable, List.forall_mem_cons, ← Removable, clearLoop]
      have hanswer := @fst_shortFwdPortCtrl env engine false added.port
      split
      · next hrefused =>
          rw [hrefused] at hanswer
          exact ⟨nofun, fun h => absurd hanswer.symm h.1⟩
      · next hgranted hnext =>
          rw [hnext] at hanswer
          rw [ih]
          exact (and_iff_right fun herror => hgranted (hanswer.trans herror)).symm

theorem groupsList_shortFwdPortCtrl (engine : McEngine) (add : Bool) (port : McPort) :
    (engine.shortFwdPortCtrl env add port).2.groupsList = engine.groupsList := by
  cases add <;> simp only [McEngine.shortFwdPortCtrl] <;> cases env.port port <;> rfl

theorem groupEntriesClear_removable (hfree : t.held .groups = false)
    (hgranted : Removable env (t.data.engine.groupsList s).entries) :
    ∃ d, groupEntriesClear env s t = (some .success, t.withData d) := by
  have hloop := (fst_clearLoop (s := s) _ t.data.engine).mpr hgranted
  rw [groupEntriesClear, Program.bind_apply (lockGet_apply hfree)]
  change ∃ d, (match (clearLoop env s (t.data.engine.groupsList s).entries t.data.engine).1 with
    | some ret => pure ret
    | none => lockRelease .groups >>= fun _ => pure .success : McProgram McReturn)
      ((t.take .groups).withData _) = _
  rw [hloop]
  exact ⟨_, congrArg (Prod.mk _) (congrArg (Locking.mk _ · _) (update_update_free hfree))⟩

theorem groupEntriesClear_refused (hfree : t.held .groups = false)
    (hrefused : ¬Removable env (t.data.engine.groupsList s).entries) :
    ∃ ret d, groupEntriesClear env s t = (some ret, (t.take .groups).withData d) := by
  rw [groupEntriesClear, Program.bind_apply (lockGet_apply hfree)]
  change ∃ ret d, (match
      (clearLoop env s (t.data.engine.groupsList s).entries t.data.engine).1 with
    | some ret => pure ret
    | none => lockRelease .groups >>= fun _ => pure .success : McProgram McReturn)
      ((t.take .groups).withData _) = _
  cases hloop : (clearLoop env s (t.data.engine.groupsList s).entries t.data.engine).1 with
  | none => exact absurd ((fst_clearLoop _ _).mp hloop) hrefused
  | some ret => exact ⟨ret, _, rfl⟩

/-- Where the loop over the entries is left, the device has refused a removal. -/
theorem srcRemLoop_left_iff (group : McGroup) (entries done : List AddedGroup) (ret : McReturn)
    (engine : McEngine) :
    (∀ value, (srcRemLoop env s group done entries ret engine).1 ≠ .left value) ↔
      SrcRemovable env group entries := by
  induction entries generalizing done ret engine with
  | nil => exact iff_of_true nofun trivial
  | cons old rest ih =>
      rw [SrcRemovable, srcRemLoop]
      dsimp only
      split
      · split
        · rw [ih]
        · have hanswer := @fst_shortFwdPortCtrl env engine false old.port
          split
          · next hrefused =>
              rw [hrefused] at hanswer
              exact iff_of_false (fun h => h .error rfl) fun h => h.1 hanswer.symm
          · next hgranted hnext =>
              rw [hnext] at hanswer
              rw [and_iff_right fun herror => hgranted (hanswer.trans herror)]
              split
              · next hmore => exact iff_of_true nofun (.inl hmore)
              · next hlast => rw [ih, or_iff_right hlast]
      · rw [ih]

section Kept

variable (hmisused : t.misused = false)

section Lists

variable (hfree : t.held .groups = false)
include hmisused hfree

theorem kept_groupEntriesClear :
    Kept (groupEntriesClear env s) t ↔ Removable env (t.data.engine.groupsList s).entries := by
  rw [Kept, Ends]
  by_cases hgranted : Removable env (t.data.engine.groupsList s).entries
  · obtain ⟨d, hrun⟩ := groupEntriesClear_removable hfree hgranted
    rw [hrun]
    exact iff_of_true ⟨hmisused, fun _ => rfl⟩ hgranted
  · obtain ⟨ret, d, hrun⟩ := groupEntriesClear_refused hfree hgranted
    rw [hrun]
    exact iff_of_false (fun h => update_true_ne hfree (h.2 rfl)) hgranted

theorem kept_groupEntriesBwTotalGet : Kept (groupEntriesBwTotalGet s) t :=
  (ends_lockGet_free hfree).mpr (ends_released hmisused hfree _ _)

theorem kept_groupEntriesBwCurrGet : Kept (groupEntriesBwCurrGet s) t :=
  (ends_lockGet_free hfree).mpr (ends_released hmisused hfree _ _)

theorem kept_groupEntriesUpdate :
    Kept (groupEntriesUpdate env) t := by
  rw [groupEntriesUpdate]
  cases env.clock with
  | none => exact (ends_pure _).mpr ⟨hmisused, rfl⟩
  | some now => exact (ends_lockGet_free hfree).mpr (ends_released hmisused hfree _ _)

theorem kept_groupEntryAdd (added : AddedGroup) :
    Kept (groupEntryAdd env s added) t ↔
      Storable env (t.data.engine.groupsList s).entries added := by
  rw [Kept, groupEntryAdd, ends_perform]
  split
  · next hanswer =>
      have hrefused : env.port added.port = .error := hanswer
      exact iff_of_true ((ends_pure _).mpr ⟨hmisused, rfl⟩) fun h => absurd hrefused h
  · next hanswer =>
      have hgranted : env.port added.port ≠ .error := hanswer
      have hfree' : ∀ d, (t.withData d).held .groups = false := fun _ => hfree
      have hlist := @groupsList_shortFwdPortCtrl env t.data.engine true added.port
      rw [Storable, imp_iff_right hgranted, ends_lockGet_free (hfree' _), ends_readEngine, ← hlist]
      dsimp only
      split
      · next hfound =>
          have ⟨old, hold, hsame⟩ := List.any_eq_true.mp hfound
          exact iff_of_true (ends_released hmisused hfree _ _)
            (.inl ⟨old, hold, of_decide_eq_true hsame⟩)
      · next hnone =>
          split
          · next hmemory => exact iff_of_true (ends_released hmisused hfree _ _) (.inr hmemory)
          · next hmemory =>
              have hneither : ¬((∃ old ∈ ((t.data.engine.shortFwdPortCtrl env true
                  added.port).2.groupsList s).entries, old.group.gAddr = added.group.gAddr) ∨
                  env.memory = true) := by
                intro h
                cases h with
                | inl hentry =>
                    have ⟨old, hold, hsame⟩ := hentry
                    exact hnone (List.any_eq_true.mpr ⟨old, hold, decide_eq_true hsame⟩)
                | inr h => exact hmemory h
              exact iff_of_false (not_ends_taken (t := t) hfree _ _) hneither

theorem kept_groupEntryRem (added : AddedGroup) : Kept (groupEntryRem env s added) t := by
  rw [Kept, groupEntryRem, ends_perform]
  split
  · exact (ends_pure _).mpr ⟨hmisused, rfl⟩
  · have hfree' : ∀ d, (t.withData d).held .groups = false := fun _ => hfree
    exact (ends_lockGet_free (hfree' _)).mpr (ends_released hmisused hfree _ _)

theorem kept_groupEntryMatchFind (group : McGroup) : Kept (groupEntryMatchFind s group) t := by
  rw [Kept, groupEntryMatchFind, ends_lockGet_free hfree, ends_readEngine]
  split
  · exact ends_released hmisused hfree _ _
  · exact ends_released hmisused hfree _ _

theorem kept_groupEntrySrcAdd (group : McGroup) : Kept (groupEntrySrcAdd s group) t := by
  rw [Kept, groupEntrySrcAdd, ends_lockGet_free hfree, ends_readEngine]
  dsimp only
  rw [writeEngine, ends_perform, ends_lockRelease]
  split
  · exact ends_released hmisused hfree _ _
  · exact ends_released hmisused hfree _ _

theorem kept_groupEntrySrcRem (group : McGroup) :
    Kept (groupEntrySrcRem env s group) t ↔
      SrcRemovable env group (t.data.engine.groupsList s).entries := by
  rw [Kept, groupEntrySrcRem, ends_lockGet_free hfree, ends_perform,
    ← srcRemLoop_left_iff (s := s) group _ [] .success t.data.engine]
  split
  · next ret hend => exact iff_of_false (not_ends_taken hfree _ _) fun h => h ret hend
  · next hend =>
      have hcrashed : (srcRemLoop env s group [] (t.data.engine.groupsList s).entries .success
        t.data.engine).1 = .crashed := hend
      rw [hcrashed]
      exact iff_of_true (ends_fail.mpr hmisused) nofun
  · next ret hend =>
      have hfinished : (srcRemLoop env s group [] (t.data.engine.groupsList s).entries .success
        t.data.engine).1 = .finished ret := hend
      rw [hfinished]
      exact iff_of_true (ends_released hmisused hfree _ _) nofun

theorem kept_activeGroupsListGet (index : Nat) : Kept (activeGroupsListGet env index) t := by
  rw [activeGroupsListGet]
  split
  · cases env.clock with
    | none => exact (ends_pure _).mpr ⟨hmisused, rfl⟩
    | some now => exact (ends_lockGet_free hfree).mpr (ends_released hmisused hfree _ _)
  · exact (ends_pure _).mpr ⟨hmisused, rfl⟩

variable (hengine : t.held .engine = false)
include hengine

theorem ends_both_released {α : Type} (a : α) :
    Ends (pure a : McProgram α) ((((t.take .engine).take .groups).drop .groups).drop .engine)
      t.held := by
  have hgroups : (t.take .engine).held .groups = false := hfree
  have hreleased := update_update_free hgroups
  have hheld : Function.update (Function.update (Function.update (t.take .engine).held
      McLock.groups true) McLock.groups false) McLock.engine false = t.held := by
    rw [hreleased]
    exact update_update_free hengine
  exact (ends_pure a).mpr ⟨hmisused, hheld⟩

theorem kept_lostGroupsListGet (index : Nat) :
    Kept (lostGroupsListGet index) t := by
  rw [lostGroupsListGet]
  split
  · have hgroups : (t.take .engine).held .groups = false := hfree
    rw [Kept, ends_lockGet_free hengine, ends_lockGet_free hgroups, ends_readEngine]
    dsimp only
    split
    · exact ends_both_released hmisused hfree hengine _
    · split
      · exact ends_both_released hmisused hfree hengine _
      · exact ends_both_released hmisused hfree hengine _
  · exact (ends_pure _).mpr ⟨hmisused, rfl⟩

/-- A subscriber that is configured anew can be cleared of its groups. -/
def Replaceable (env : McEnv) (engine : McEngine) (index : Nat) (subscr : McSubscr) : Prop :=
  ∀ hindex : index < omciApiMccMaxSubscribers, ProfileAccepted subscr →
    (engine.subscr ⟨index, hindex⟩).valid = true →
    Removable env (engine.groupsList (some ⟨index, hindex⟩)).entries

/-- The list of a subscriber is cleared and then something is written. -/
theorem kept_clearAndWrite {s : SubscrIdx} {x : McControl → Unit × McControl} :
    Kept (groupEntriesClear env (some s) >>= fun _ => locked .engine x >>= fun _ =>
      (pure .success : McProgram McReturn)) t ↔
      Removable env (t.data.engine.groupsList (some s)).entries := by
  by_cases hgranted : Removable env (t.data.engine.groupsList (some s)).entries
  · have ⟨d, hclear⟩ := groupEntriesClear_removable hfree hgranted
    have hengine' : (t.withData d).held .engine = false := hengine
    rw [Kept, ends_bind hclear, ends_locked hengine']
    exact iff_of_true ((ends_pure _).mpr ⟨hmisused, rfl⟩) hgranted
  · have ⟨ret, d, hclear⟩ := groupEntriesClear_refused hfree hgranted
    have hengine' : ((t.take .groups).withData d).held .engine = false := hengine
    rw [Kept, ends_bind hclear, ends_locked hengine']
    exact iff_of_false (not_ends_taken hfree _ _) hgranted

theorem kept_subscrUpdate (index : Nat) (subscr : McSubscr) :
    Kept (subscrUpdate env index subscr) t ↔
      Replaceable env t.data.engine index subscr := by
  rw [subscrUpdate]
  split
  · next hindex =>
      dsimp only
      split
      · next haccepted =>
          rw [Kept, ends_readEngine]
          split
          · next hvalid =>
              have hcleared := @kept_clearAndWrite (t.withData (setSubscr ⟨index, hindex⟩
                  { t.data.engine.subscr ⟨index, hindex⟩ with valid := false } t.data).2)
                env hmisused hfree hengine ⟨index, hindex⟩ (setSubscr ⟨index, hindex⟩ subscr)
              rw [ends_locked hengine]
              exact hcleared.trans
                ⟨fun hgranted _ _ _ => hgranted, fun h => h hindex haccepted hvalid⟩
          · next hinvalid =>
              exact iff_of_true
                ((ends_locked hengine).mpr ((ends_pure _).mpr ⟨hmisused, rfl⟩))
                fun _ _ hvalid => absurd hvalid hinvalid
      · next hrefused =>
          exact iff_of_true ((ends_pure _).mpr ⟨hmisused, rfl⟩)
            fun _ haccepted => absurd haccepted hrefused
  · next hindex =>
      exact iff_of_true ((ends_pure _).mpr ⟨hmisused, rfl⟩) fun h => absurd h hindex

end Lists

variable (hengine : t.held .engine = false)
include hmisused hengine

theorem kept_engineWork {α β : Type} {index : Nat}
    {x : index < omciApiMccMaxSubscribers → McControl → α × McControl} {f : α → β} {b : β} :
    Kept (if hindex : index < omciApiMccMaxSubscribers then
        locked .engine (x hindex) >>= fun a => pure (f a)
      else pure b) t := by
  split
  · exact (ends_locked hengine).mpr ((ends_pure _).mpr ⟨hmisused, rfl⟩)
  · exact (ends_pure _).mpr ⟨hmisused, rfl⟩

theorem kept_profileGet (index : Nat) : Kept (profileGet index) t :=
  kept_engineWork hmisused hengine

theorem kept_profileUpdate (meters : McMeterEnv) (index : Nat) (profile : McProfile)
    (rate : BitVec 32) :
    Kept (profileUpdate meters index profile rate) t := by
  rw [profileUpdate]
  split
  · rw [Kept, ends_perform]
    split
    · have hengine' : ∀ d, (t.withData d).held .engine = false := fun _ => hengine
      exact (ends_locked (hengine' _)).mpr ((ends_pure _).mpr ⟨hmisused, rfl⟩)
    · exact (ends_pure _).mpr ⟨hmisused, rfl⟩
  · exact (ends_pure _).mpr ⟨hmisused, rfl⟩

theorem kept_profileDaclUpdate (index : Nat) (acl : List AclEntry) : Kept (profileDaclUpdate index acl) t :=
  kept_engineWork hmisused hengine

theorem kept_subscrGet (index : Nat) : Kept (subscrGet index) t :=
  kept_engineWork hmisused hengine

theorem kept_subscrStatusGet (index : Nat) : Kept (subscrStatusGet index) t :=
  kept_engineWork hmisused hengine

theorem kept_subscrStatusReset (index : Nat) : Kept (subscrStatusReset index) t :=
  kept_engineWork hmisused hengine

end Kept

theorem not_kept_exit (hfree : t.held .groups = false) : ¬Kept (exit env) t := by
  have hheld : (t.take .groups).held .groups = true := rfl
  have hclear : groupEntriesClear env (some ⟨0, by decide⟩) (t.take .groups) =
      (none, { t.take .groups with misused := true }) :=
    Program.bind_apply_none (lockGet_apply_held hheld)
  have hall : exitClear env ((List.finRange omciApiMccMaxSubscribers).map some ++ [none])
      (t.take .groups) = (none, { t.take .groups with misused := true }) :=
    Program.bind_apply_none hclear
  rw [Kept, exit, ends_lockGet_free hfree, ends_bind_none hall]
  exact Bool.true_eq_false.mp

/-! ## The same functions without the thread

The functions of the multicast engine wait where the lock of the lists is held and say whether it
is released; these ones do the same. -/

def view (t : McThread) : McEngine :=
  { t.data.engine with locked := t.held .groups }

def outcome {α : Type} (x : McProgram α) (t : McThread) : Option (α × McEngine) :=
  (x t).1.map fun a => (a, view (x t).2)

section Outcome

variable {α β : Type}

@[simp] theorem outcome_pure (a : α) : outcome (pure a) t = some (a, view t) :=
  rfl

theorem outcome_perform {x : McControl → α × McControl} {f : α → McProgram β} :
    outcome (perform x >>= f) t = outcome (f (x t.data).1) (t.withData (x t.data).2) :=
  rfl

@[simp] theorem outcome_lockGet {f : Unit → McProgram β} :
    outcome (lockGet .groups >>= f) t =
      if t.held .groups then none else outcome (f ()) (t.take .groups) := by
  cases hheld : t.held .groups with
  | true =>
      rw [outcome, Program.bind_apply_none (lockGet_apply_held hheld)]
      rfl
  | false =>
      rw [outcome, Program.bind_apply (lockGet_apply hheld)]
      rfl

@[simp] theorem outcome_lockRelease {f : Unit → McProgram β} :
    outcome (lockRelease .groups >>= f) t = outcome (f ()) (t.drop .groups) :=
  rfl

@[simp] theorem outcome_readEngine {f : McEngine → McProgram β} :
    outcome (readEngine >>= f) t = outcome (f t.data.engine) t :=
  rfl

@[simp] theorem outcome_writeEngine {g : McEngine → McEngine} {f : Unit → McProgram β} :
    outcome (writeEngine g >>= f) t =
      outcome (f ()) (t.withData { t.data with engine := g t.data.engine }) :=
  rfl

@[simp] theorem outcome_ite {p : Prop} [Decidable p] {x y : McProgram α} :
    outcome (if p then x else y) t = if p then outcome x t else outcome y t := by
  split <;> rfl

end Outcome

/-- The loop of the clearing does the same, and does not read the lock. -/
theorem clearLoop_eq (isLocked : Bool) (entries : List AddedGroup) (engine : McEngine) :
    McEngine.groupEntriesClearLoop env s entries { engine with locked := isLocked } =
      match clearLoop env s entries engine with
      | (some ret, engine) => (ret, { engine with locked := true })
      | (none, engine) => (.success, { engine with locked := isLocked }) := by
  induction entries generalizing engine with
  | nil => rfl
  | cons added rest ih =>
      rw [McEngine.groupEntriesClearLoop, clearLoop]
      simp only [McEngine.shortFwdPortCtrl]
      cases env.port added.port with
      | error => rfl
      | _ =>
          exact ih (McEngine.setEntries
            { engine with device := engine.device.erase added.port } s rest _)

theorem groupEntriesClear_eq :
    outcome (groupEntriesClear env s) t = (view t).groupEntriesClear env s := by
  rw [groupEntriesClear, McEngine.groupEntriesClear, outcome_lockGet]
  cases hheld : t.held .groups with
  | true => simp [view, hheld]
  | false =>
      have hloop := @clearLoop_eq env s false (t.data.engine.groupsList s).entries
        t.data.engine
      have hview : view t = { t.data.engine with locked := false } := by
        rw [view, hheld]
      have hdata : (t.take McLock.groups).data = t.data := rfl
      rw [outcome_perform, hview]
      simp only [Bool.false_eq_true, if_false, engineDo]
      rw [hloop, hdata]
      generalize clearLoop env s (t.data.engine.groupsList s).entries t.data.engine = result
      have ⟨left, engine⟩ := result
      cases left <;> rfl

theorem groupEntryAdd_eq (added : AddedGroup) :
    outcome (groupEntryAdd env s added) t = (view t).groupEntryAdd env s added := by
  rw [groupEntryAdd, outcome_perform, McEngine.groupEntryAdd]
  simp only [McEngine.shortFwdPortCtrl, engineDo]
  cases env.port added.port with
  | error => rfl
  | _ =>
      simp only [outcome_lockGet, outcome_readEngine, outcome_ite, outcome_writeEngine,
        outcome_lockRelease, outcome_pure]
      cases hheld : t.held .groups <;>
        simp [view, withData, take, drop, hheld, McEngine.setEntries]

theorem groupEntryRem_eq (added : AddedGroup) :
    outcome (groupEntryRem env s added) t = (view t).groupEntryRem env s added := by
  rw [groupEntryRem, outcome_perform, McEngine.groupEntryRem]
  simp only [McEngine.shortFwdPortCtrl, engineDo]
  cases env.port added.port with
  | error => rfl
  | _ =>
      simp only [outcome_lockGet, outcome_writeEngine, outcome_lockRelease, outcome_pure]
      cases hheld : t.held .groups <;>
        simp [view, withData, take, drop, hheld, McEngine.setEntries]

theorem groupEntryMatchFind_eq (group : McGroup) :
    outcome (groupEntryMatchFind s group) t =
      ((view t).groupEntryMatchFind s group).map fun found => (found, view t) := by
  rw [groupEntryMatchFind, McEngine.groupEntryMatchFind]
  simp only [outcome_lockGet, outcome_readEngine]
  cases hheld : t.held .groups with
  | true => simp [view, hheld]
  | false =>
      simp only [view, hheld, take]
      cases (t.data.engine.groupsList s).entries.find?
        (fun old => decide (old.group.Matches group)) <;> rfl

theorem groupEntrySrcAdd_eq (group : McGroup) :
    outcome (groupEntrySrcAdd s group) t = (view t).groupEntrySrcAdd s group := by
  rw [groupEntrySrcAdd, McEngine.groupEntrySrcAdd]
  simp only [outcome_lockGet, outcome_readEngine, outcome_ite, outcome_writeEngine,
    outcome_lockRelease, outcome_pure]
  cases hheld : t.held .groups with
  | true => simp [view, hheld]
  | false =>
      simp only [view, hheld, take, withData, drop]
      simp [McEngine.setEntries]
      split <;> rfl

/-- The loop of the removal does the same, and does not read the lock. -/
theorem srcRemLoop_eq (group : McGroup) (isLocked : Bool) (entries done : List AddedGroup)
    (ret : McReturn) (engine : McEngine) :
    McEngine.groupEntrySrcRemLoop env s group done entries ret
        { engine with locked := isLocked } =
      match srcRemLoop env s group done entries ret engine with
      | (.left ret, engine) => some (ret, { engine with locked := true })
      | (.finished ret, engine) => some (ret, { engine with locked := isLocked })
      | (.crashed, _) => none := by
  induction entries generalizing done ret engine with
  | nil => rfl
  | cons old rest ih =>
      rw [McEngine.groupEntrySrcRemLoop, srcRemLoop]
      simp only [McEngine.shortFwdPortCtrl]
      split
      · cases McEngine.srcListRem env 0 (group.sAddrList.sAddr.take group.sAddrList.sAddrNum)
            old.group.sAddrList with
        | kept sources => exact ih _ _ (engine.setEntries s _ _)
        | empty i sources =>
            cases env.port old.port with
            | error => rfl
            | _ =>
                dsimp only
                by_cases hmore :
                    i + 1 < (group.sAddrList.sAddr.take group.sAddrList.sAddrNum).length
                · rw [if_pos hmore, if_pos hmore]
                · rw [if_neg hmore, if_neg hmore]
                  exact ih _ _ (McEngine.setEntries
                    { engine with device := engine.device.erase old.port } s _ _)
      · exact ih _ _ engine

theorem groupEntrySrcRem_eq (group : McGroup) :
    outcome (groupEntrySrcRem env s group) t = (view t).groupEntrySrcRem env s group := by
  rw [groupEntrySrcRem, McEngine.groupEntrySrcRem, outcome_lockGet]
  cases hheld : t.held .groups with
  | true => simp [view, hheld]
  | false =>
      have hloop := @srcRemLoop_eq env s group false
        (t.data.engine.groupsList s).entries [] .success t.data.engine
      have hview : view t = { t.data.engine with locked := false } := by
        rw [view, hheld]
      have hdata : (t.take McLock.groups).data = t.data := rfl
      rw [outcome_perform, hview]
      simp only [Bool.false_eq_true, if_false, engineDo]
      rw [hloop, hdata]
      generalize srcRemLoop env s group [] (t.data.engine.groupsList s).entries .success
        t.data.engine = result
      have ⟨ends, engine⟩ := result
      cases ends <;> rfl

/-- The functions on the lists return what those of the multicast engine return, leave the lists
and the device as these leave them, wait where these wait, and release the lock where these do. -/
theorem lists_refine (env : McEnv) (s : Option SubscrIdx) (t : McThread) (added : AddedGroup)
    (group : McGroup) :
    outcome (groupEntriesClear env s) t = (view t).groupEntriesClear env s ∧
      outcome (groupEntryAdd env s added) t = (view t).groupEntryAdd env s added ∧
      outcome (groupEntryRem env s added) t = (view t).groupEntryRem env s added ∧
      outcome (groupEntryMatchFind s group) t =
        ((view t).groupEntryMatchFind s group).map (fun found => (found, view t)) ∧
      outcome (groupEntrySrcAdd s group) t = (view t).groupEntrySrcAdd s group ∧
      outcome (groupEntrySrcRem env s group) t = (view t).groupEntrySrcRem env s group :=
  ⟨groupEntriesClear_eq, groupEntryAdd_eq added, groupEntryRem_eq added,
    groupEntryMatchFind_eq group, groupEntrySrcAdd_eq group, groupEntrySrcRem_eq group⟩

end McControl

end FalconGpon.Api
