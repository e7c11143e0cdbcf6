/-
# The multicast engine

The engine of `omci_api_mcc.c` snoops IGMP. It has a list of joined groups for each subscriber,
and one for all LAN ports without a subscriber. A join adds the LAN port to the IPv4 multicast
table of the device and then the group to the list of the port; a leave removes it from the
table and then from the list. Subscribers and profiles are configured by OMCI.
-/

import Mathlib.Data.Finset.Insert
import Mathlib.Data.Fintype.Option
import FalconGpon.Omci.AclTables
import FalconGpon.Lib.Literals

namespace FalconGpon.Api

open FalconGpon.Omci (AclEntry omciApiMccMaxSubscribers)

/-! ## Groups -/

/-- `enum mcc_mc_group_state`. -/
inductive McGroupState
  | na
  | includes
  | excludes
deriving DecidableEq

/-- `enum mcc_src_addr_list_state`. -/
inductive SrcAddrListState
  | na
  | allowNewSources
  | blockOldSources
deriving DecidableEq

/-- `MCC_IGMP_SOURCE_ADDR_LIST_COUNT_MAX`, the size of `s_addr`. -/
def mccIgmpSourceAddrListCountMax : Nat := 10

/-- `struct mcc_src_addr_list`: the array and how much of it is used. -/
structure SrcAddrList where
  sAddr : List (BitVec 32)
  sAddrNum : Nat
deriving DecidableEq

/-- `struct mcc_mc_group`, without what is only shown to the OLT. -/
structure McGroup where
  gAddr : BitVec 32
  gState : McGroupState
  sAddrList : SrcAddrList
  sAddrListState : SrcAddrListState
  /-- The VLAN id; 0 for an untagged flow. -/
  vlan : BitVec 16
deriving DecidableEq

def McGroup.Matches (group other : McGroup) : Prop :=
  group.gAddr = other.gAddr ∧ group.vlan = other.vlan
deriving Decidable

/-- A LAN port of a multicast group, as `struct gpe_ipv4_mc_port` has it. -/
structure McPort where
  lanPort : BitVec 8
  fid : BitVec 8
  ip : BitVec 32
deriving DecidableEq

/-- `struct mcc_added_group`. -/
structure AddedGroup where
  group : McGroup
  lanPort : BitVec 8
  fid : BitVec 8
  lost : Bool
  lastUpdate : Nat
  ts : Nat
  bw : BitVec 32
deriving DecidableEq

def AddedGroup.port (added : AddedGroup) : McPort :=
  ⟨added.lanPort, added.fid, added.group.gAddr⟩

/-- `struct mcc_added_groups_list`. -/
structure AddedGroupsList where
  entries : List AddedGroup
  entriesNum : Nat
deriving DecidableEq

/-! ## The engine -/

abbrev SubscrIdx := Fin omciApiMccMaxSubscribers

/-- `struct omci_api_mcc_subscr_cfg`. -/
structure McSubscr where
  valid : Bool
  lanIdx : BitVec 8
  profileIdx : BitVec 8
  maxSimultaneousGroups : BitVec 16
  maxMcBw : BitVec 32
  bwEnforcement : Bool
deriving DecidableEq

/-- `struct omci_api_mcc_profile`: its validity and the dynamic access control list. -/
structure McProfile where
  valid : Bool
  dynamicAcl : List AclEntry
deriving DecidableEq

/-- `struct mcc_ctx`, and the ports the device has in its multicast table for IGMP. -/
structure McEngine where
  profile : SubscrIdx → McProfile
  subscr : SubscrIdx → McSubscr
  /-- `added_groups_list`, and `unassigned_groups_list` for `MCC_SUBSCR_NULL`. -/
  groupsList : Option SubscrIdx → AddedGroupsList
  /-- `groups_list_lock` is not released any more. -/
  locked : Bool
  device : Finset McPort

/-- `enum omci_api_return`, as far as the engine returns it. -/
inductive McReturn
  | success
  | error
  | noMemory
  | notAvailable
deriving DecidableEq

/-- What the device answers to a change of a port. -/
inductive McAnswer
  | success
  | notAvailable
  | error
deriving DecidableEq

/-- What the engine is answered while it handles a record or a subscriber. -/
structure McEnv where
  /-- `FIO_GPE_VLAN_FID_GET` and `FIO_GPE_VLAN_FID_ADD` for the VLAN. -/
  fidGet : Option (BitVec 8)
  fidAdd : Option (BitVec 8)
  clock : Option Nat
  /-- The change of a port in the multicast table. -/
  port : McPort → McAnswer
  memory : Bool
  /-- What stands in memory behind an array of source addresses, counted from its start. -/
  behind : Nat → BitVec 32

namespace McEngine

variable (engine : McEngine) (env : McEnv)

/-- `mcc_subscr_idx_get`: the first valid subscriber of a LAN port. -/
def subscrIdxGet (lanPort : BitVec 8) : Option SubscrIdx :=
  Fin.find? fun s => (engine.subscr s).valid && (engine.subscr s).lanIdx = lanPort

/-- `mcc_profile_idx_get`. -/
def profileIdxGet (s : Option SubscrIdx) : Option SubscrIdx := do
  let s ← s
  let index := (engine.subscr s).profileIdx.toNat
  if hindex : index < omciApiMccMaxSubscribers then
    if (engine.profile ⟨index, hindex⟩).valid then some ⟨index, hindex⟩ else none
  else none

def setEntries (s : Option SubscrIdx) (entries : List AddedGroup) (entriesNum : Nat) : McEngine :=
  { engine with groupsList := Function.update engine.groupsList s ⟨entries, entriesNum⟩ }

/-- `mcc_short_fwd_port_ctrl`. A port that is added stays out of the table if the device answers
that it has the group for other software; one that is removed is then not in it either. -/
def shortFwdPortCtrl (add : Bool) (port : McPort) : McAnswer × McEngine :=
  (env.port port,
    match add, env.port port with
    | true, .success => { engine with device := insert port engine.device }
    | true, .notAvailable => engine
    | false, .success => { engine with device := engine.device.erase port }
    | false, .notAvailable => { engine with device := engine.device.erase port }
    | _, .error => engine)

/-- The loop of `mcc_subscr_group_entries_clear`; it is left without a release of the lock. -/
def groupEntriesClearLoop (s : Option SubscrIdx) : List AddedGroup → McEngine → McReturn × McEngine
  | [], engine => (.success, engine)
  | added :: rest, engine =>
      match engine.shortFwdPortCtrl env false added.port with
      | (.error, engine) => (.error, { engine with locked := true })
      | (_, engine) => groupEntriesClearLoop s rest
          (engine.setEntries s rest ((engine.groupsList s).entriesNum - 1))

/-- `mcc_subscr_group_entries_clear`; it waits for ever if the lock is not released. -/
def groupEntriesClear (s : Option SubscrIdx) : Option (McReturn × McEngine) :=
  if engine.locked then none
  else some (groupEntriesClearLoop env s (engine.groupsList s).entries engine)

/-- `last_update` of the first entry with a group address. -/
def touchFirst (gAddr : BitVec 32) (now : Nat) : List AddedGroup → List AddedGroup
  | [] => []
  | added :: rest =>
      if added.group.gAddr = gAddr then { added with lastUpdate := now } :: rest
      else added :: touchFirst gAddr now rest

/-- `mcc_subscr_group_entry_add`; it waits like the clearing. -/
def groupEntryAdd (s : Option SubscrIdx) (added : AddedGroup) : Option (McReturn × McEngine) :=
  match engine.shortFwdPortCtrl env true added.port with
  | (.error, engine) => some (.error, engine)
  | (_, engine) =>
      let list := engine.groupsList s
      if engine.locked then none
      else if list.entries.any (·.group.gAddr = added.group.gAddr) then
        some (.success, engine.setEntries s
          (touchFirst added.group.gAddr added.lastUpdate list.entries) list.entriesNum)
      else if env.memory then
        some (.success, engine.setEntries s (list.entries ++ [added]) (list.entriesNum + 1))
      else some (.noMemory, { engine with locked := true })

/-- `mcc_subscr_group_entry_rem`. -/
def groupEntryRem (s : Option SubscrIdx) (added : AddedGroup) : Option (McReturn × McEngine) :=
  match engine.shortFwdPortCtrl env false added.port with
  | (.error, engine) => some (.error, engine)
  | (_, engine) =>
      let list := engine.groupsList s
      let kept := list.entries.filter fun old => ¬old.group.Matches added.group
      if engine.locked then none
      else some (.success, engine.setEntries s kept
        (list.entriesNum - (list.entries.length - kept.length)))

/-- `mcc_subscr_group_entry_match_find`. -/
def groupEntryMatchFind (s : Option SubscrIdx) (group : McGroup) : Option (Option AddedGroup) :=
  if engine.locked then none
  else some ((engine.groupsList s).entries.find? (·.group.Matches group))

/-! ## Source addresses -/

/-- The loop over the new addresses in `mcc_subscr_group_entry_src_add`; it ends where there is
no space left. -/
def srcListAdd : List (BitVec 32) → SrcAddrList → Bool × SrcAddrList
  | [], old => (true, old)
  | addr :: rest, old =>
      if addr ∈ old.sAddr.take old.sAddrNum then srcListAdd rest old
      else if mccIgmpSourceAddrListCountMax ≤ old.sAddrNum then (false, old)
      else srcListAdd rest ⟨old.sAddr.set old.sAddrNum addr, old.sAddrNum + 1⟩

/-- `mcc_subscr_group_entry_src_add`. -/
def groupEntrySrcAdd (s : Option SubscrIdx) (group : McGroup) : Option (McReturn × McEngine) :=
  let list := engine.groupsList s
  let added := fun old : McGroup =>
    srcListAdd (group.sAddrList.sAddr.take group.sAddrList.sAddrNum) old.sAddrList
  let full := list.entries.any fun old => old.group.Matches group && !(added old.group).1
  if engine.locked then none
  else some (if full then .error else .success, engine.setEntries s
    (list.entries.map fun old =>
      if old.group.Matches group then
        { old with group := { old.group with
            sAddrListState := group.sAddrListState, sAddrList := (added old.group).2 } }
      else old) list.entriesNum)

/-- The body of the inner loop of `mcc_subscr_group_entry_src_rem` for the new address number `i`
and the old one number `j`; the source of the copy is computed from `i`. -/
def srcListRemOne (i : Nat) (addr : BitVec 32) (old : SrcAddrList) (j : Nat) : SrcAddrList :=
  if j < old.sAddrNum ∧ old.sAddr[j]? = some addr then
    if i + 1 = old.sAddrNum then ⟨old.sAddr.set i 0, old.sAddrNum - 1⟩
    else
      let moved := (List.range (old.sAddrNum - j - 1)).map fun k =>
        old.sAddr.getD (i + 1 + k) (env.behind (i + 1 + k))
      ⟨old.sAddr.take j ++ moved ++ old.sAddr.drop (j + moved.length), old.sAddrNum - 1⟩
  else old

/-- How the loop over the new addresses ends for an entry. -/
inductive SrcRem
  | kept (sources : SrcAddrList)
  /-- No source is left after the new address number `i`. -/
  | empty (i : Nat) (sources : SrcAddrList)

/-- The loop over the new addresses in `mcc_subscr_group_entry_src_rem`, from number `i` on. -/
def srcListRem (i : Nat) : List (BitVec 32) → SrcAddrList → SrcRem
  | [], old => .kept old
  | addr :: rest, old =>
      let left := (List.range old.sAddrNum).foldl (srcListRemOne env i addr) old
      if left.sAddrNum = 0 then .empty i left else srcListRem (i + 1) rest left

/-- The loop over the entries in `mcc_subscr_group_entry_src_rem`. `done` has the entries before.
An entry without sources is freed; the loop over the new addresses goes on all the same, and
ends the process if there is one more. -/
def groupEntrySrcRemLoop (s : Option SubscrIdx) (group : McGroup) :
    List AddedGroup → List AddedGroup → McReturn → McEngine → Option (McReturn × McEngine)
  | _, [], ret, engine => some (ret, engine)
  | done, old :: rest, ret, engine =>
      let list := engine.groupsList s
      let news := group.sAddrList.sAddr.take group.sAddrList.sAddrNum
      let changed := fun sources => { old with group := { old.group with
        sAddrListState := group.sAddrListState, sAddrList := sources } }
      if old.group.Matches group then
        match srcListRem env 0 news old.group.sAddrList with
        | .kept sources =>
            groupEntrySrcRemLoop s group (done ++ [changed sources]) rest ret
              (engine.setEntries s (done ++ changed sources :: rest) list.entriesNum)
        | .empty i sources =>
            match engine.shortFwdPortCtrl env false old.port with
            | (.error, engine) =>
                some (.error, { engine.setEntries s (done ++ changed sources :: rest)
                  list.entriesNum with locked := true })
            | (answer, engine) =>
                if i + 1 < news.length then none
                else groupEntrySrcRemLoop s group done rest
                  (if answer = .success then .success else .notAvailable)
                  (engine.setEntries s (done ++ rest) (list.entriesNum - 1))
      else groupEntrySrcRemLoop s group (done ++ [old]) rest ret engine

/-- `mcc_subscr_group_entry_src_rem`. -/
def groupEntrySrcRem (s : Option SubscrIdx) (group : McGroup) : Option (McReturn × McEngine) :=
  if engine.locked then none
  else groupEntrySrcRemLoop env s group [] (engine.groupsList s).entries .success engine

/-! ## Admission -/

/-- `mcc_profile_dacl_match`: the bandwidth of the row that matches, 0 if there is no restriction,
and none if there is no match. -/
def profileDaclMatch (p : Option SubscrIdx) (rec : McGroup) : Option (BitVec 32) :=
  match p.map fun p => (engine.profile p).dynamicAcl with
  | none => some 0
  | some [] => some 0
  | some acl =>
      let sources := rec.sAddrList.sAddr.take rec.sAddrList.sAddrNum
      (acl.find? fun row =>
        rec.vlan &&& 0xFFF = row.vlanId ∧ row.destStartIp ≤ rec.gAddr ∧
          rec.gAddr ≤ row.destEndIp ∧
          (row.sourceIp = 0 ∨ rec.sAddrList.sAddr.headD 0 = 0 ∨ row.sourceIp ∈ sources)).map
        (·.groupBandwidth)

/-- `mcc_subscr_is_groups_limit_reached`. -/
def isGroupsLimitReached : Option SubscrIdx → Bool
  | none => false
  | some s =>
      let max := (engine.subscr s).maxSimultaneousGroups.toNat
      max ≠ 0 && decide (max ≤ (engine.groupsList (some s)).entriesNum)

/-- The check of `max_mc_bw`: the new group would exceed it, and it is enforced. -/
def bwLimitReached (bandwidth : BitVec 32) : Option SubscrIdx → Bool
  | none => false
  | some s =>
      let total := ((engine.groupsList (some s)).entries.map (·.bw)).sum + bandwidth
      (engine.subscr s).maxMcBw ≠ 0 && decide ((engine.subscr s).maxMcBw < total) &&
        (engine.subscr s).bwEnforcement

/-- What the checks of a new group come to. -/
inductive Admission
  /-- No row of the ACL matches, or the limit of groups is reached. -/
  | denied
  | overBandwidth
  | admitted (bandwidth : BitVec 32)

/-- The checks of a new group, as both actions make them. -/
def admission (s p : Option SubscrIdx) (rec : McGroup) : Admission :=
  match engine.profileDaclMatch p rec with
  | none => .denied
  | some bandwidth =>
      if engine.isGroupsLimitReached s then .denied
      else if engine.bwLimitReached bandwidth s then .overBandwidth
      else .admitted bandwidth

/-! ## Actions -/

/-- How the handling of a record ends. -/
inductive RecordEnd
  | skipped
  | acted
  /-- The rest of the records is left out. -/
  | break
  | failed (ret : McReturn)
deriving DecidableEq

def RecordEnd.ofReturn : McReturn → RecordEnd
  | .success => .acted
  | ret => .failed ret

/-- The part of both actions from the flow id to the change of the list; a removal does not use
the bandwidth, which is not set then. -/
def groupEntryChange (lanPort : BitVec 8) (s : Option SubscrIdx) (rec : McGroup) (add : Bool)
    (bandwidth : BitVec 32) : Option (RecordEnd × McEngine) :=
  match if add then env.fidGet.or env.fidAdd else env.fidGet with
  | none => some (.failed .error, engine)
  | some fid =>
      match env.clock with
      | none => some (.failed .error, engine)
      | some now =>
          let added : AddedGroup := ⟨rec, lanPort, fid, false, now, now, bandwidth⟩
          let done := if add then engine.groupEntryAdd env s added
            else engine.groupEntryRem env s added
          done.map fun (ret, engine) => (.ofReturn ret, engine)

/-- A record in `mcc_igmp_v2_action_group_do`. -/
def igmpV2Record (lanPort : BitVec 8) (s p : Option SubscrIdx) (rec : McGroup) :
    Option (RecordEnd × McEngine) :=
  match rec.gState with
  | .na => some (.skipped, engine)
  | .excludes =>
      match engine.admission s p rec with
      | .admitted bandwidth => engine.groupEntryChange env lanPort s rec true bandwidth
      | _ => some (.skipped, engine)
  | .includes => engine.groupEntryChange env lanPort s rec false 0

/-- `enum mcc_group_action_type`. -/
inductive McGroupAction
  | none
  | gaddrAdd
  | gaddrRem
  | saddrAdd
  | saddrRem
deriving DecidableEq

/-- What `mcc_igmp_v3_action_group_do` does for a record and the entry it matches. -/
def groupAction (rec : McGroup) (matched : Option AddedGroup) : McGroupAction :=
  if rec.gState = .excludes ∨ rec.sAddrList.sAddrNum ≠ 0 then
    match matched with
    | some old =>
        match rec.sAddrListState with
        | .allowNewSources => if old.group.gState = .includes then .saddrAdd else .saddrRem
        | .blockOldSources => if old.group.gState = .includes then .saddrRem else .saddrAdd
        | .na => .none
    | none => if rec.sAddrListState = .blockOldSources then .none else .gaddrAdd
  else if rec.gState = .includes ∧ matched.isSome then .gaddrRem
  else .none

/-- A record in `mcc_igmp_v3_action_group_do`. -/
def igmpV3Record (lanPort : BitVec 8) (s p : Option SubscrIdx) (rec : McGroup) :
    Option (RecordEnd × McEngine) := do
  let matched ← engine.groupEntryMatchFind s rec
  match groupAction rec matched with
  | .none => some (.skipped, engine)
  | .gaddrAdd =>
      match engine.admission s p rec with
      | .admitted bandwidth => engine.groupEntryChange env lanPort s rec true bandwidth
      | .denied => some (.skipped, engine)
      | .overBandwidth => some (.break, engine)
  | .gaddrRem => engine.groupEntryChange env lanPort s rec false 0
  | .saddrAdd =>
      (engine.groupEntrySrcAdd s rec).map fun (ret, engine) => (.ofReturn ret, engine)
  | .saddrRem =>
      (engine.groupEntrySrcRem env s rec).map fun (ret, engine) => (.ofReturn ret, engine)

/-- The loop of both actions over the records of a report. Besides the return value it says
whether the packet is dropped, for no record was acted on. -/
def actionGroupDo (record : McEnv → McGroup → McEngine → Option (RecordEnd × McEngine)) :
    List (McEnv × McGroup) → Bool → McEngine → Option ((McReturn × Bool) × McEngine)
  | [], drop, engine => some ((.success, drop), engine)
  | (env, rec) :: rest, drop, engine =>
      match record env rec engine with
      | none => none
      | some (.skipped, engine) => actionGroupDo record rest drop engine
      | some (.acted, engine) => actionGroupDo record rest false engine
      | some (.break, engine) => some ((.success, drop), engine)
      | some (.failed ret, engine) => some ((ret, false), engine)

/-! ## Events -/

/-- `omci_api_mcc_subscr_update`; attaching and detaching a rate limiter does nothing. -/
def subscrUpdate (index : Nat) (subscr : McSubscr) : Option (McReturn × McEngine) :=
  if hindex : index < omciApiMccMaxSubscribers then
    let s : SubscrIdx := ⟨index, hindex⟩
    if omciApiMccMaxSubscribers ≤ subscr.profileIdx.toNat ∧ subscr.profileIdx ≠ 0xFF then
      some (.error, engine)
    else
      let cleared := if (engine.subscr s).valid then
          (engine.groupEntriesClear env (some s)).map Prod.snd
        else some engine
      cleared.map fun cleared =>
        (.success, { cleared with subscr := Function.update engine.subscr s subscr })
  else some (.error, engine)

end McEngine

/-- What the engine is asked for: a v2 report or leave, a v3 report, the configuration of a
subscriber, or that of a profile or of its ACL. -/
inductive McEvent
  | igmpV2 (lanPort : BitVec 8) (records : List (McEnv × McGroup))
  | igmpV3 (lanPort : BitVec 8) (records : List (McEnv × McGroup))
  | subscr (env : McEnv) (index : Nat) (subscr : McSubscr)
  | profile (index : SubscrIdx) (profile : McProfile)

/-- One event. -/
def McEngine.step (engine : McEngine) : McEvent → Option McEngine
  | .igmpV2 lanPort records =>
      let s := engine.subscrIdxGet lanPort
      let p := engine.profileIdxGet s
      (actionGroupDo (fun env rec engine => engine.igmpV2Record env lanPort s p rec)
        records true engine).map Prod.snd
  | .igmpV3 lanPort records =>
      let s := engine.subscrIdxGet lanPort
      let p := engine.profileIdxGet s
      (actionGroupDo (fun env rec engine => engine.igmpV3Record env lanPort s p rec)
        records true engine).map Prod.snd
  | .subscr env index subscr => (engine.subscrUpdate env index subscr).map Prod.snd
  | .profile index profile =>
      some { engine with profile := Function.update engine.profile index profile }

/-- The engine after `mcc_init`. -/
def McEngine.init : McEngine where
  profile := fun _ => ⟨false, []⟩
  subscr := fun _ => ⟨false, 0, 0, 0, 0, false⟩
  groupsList := fun _ => ⟨[], 0⟩
  locked := false
  device := ∅

end FalconGpon.Api
