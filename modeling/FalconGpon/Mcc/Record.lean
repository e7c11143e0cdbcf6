/-
# Membership records

IGMP and MLD reports carry records, each of which changes the filter of one client of a
group: `mcc_rec_get` reads a record, `mcc_rec_process` checks it against the white list and
the limits of the port, finds or creates flow, group and client, and refreshes them.
-/

import FalconGpon.Mcc.Forward

namespace FalconGpon.Mcc

open FalconGpon.Lib

/-! ## Source lists that hold no address twice -/

namespace MccSrcList

/-- `mcc_src_create`, where `mcc_src_find` has found nothing. -/
def add (list : MccSrcList) (e : MccSrcEntry) : MccSrcList where
  entries := slistAdd list.entries e
  nodup := by
    unfold slistAdd
    split
    · exact list.nodup
    · rename_i hnew
      rw [addrs, List.map_append, List.nodup_append]
      refine ⟨list.nodup, List.nodup_singleton _, ?_⟩
      rintro sa hsa _ hnew' rfl
      exact hnew (List.mem_singleton.mp hnew' ▸ hsa)

theorem mem_add {list : MccSrcList} {e new : MccSrcEntry} (he : e ∈ (list.add new).entries) :
    e ∈ list.entries ∨ e = new := by
  unfold add slistAdd at he
  split at he
  · exact .inl he
  · exact (List.mem_append.mp he).imp_right List.mem_singleton.mp

/-- `mcc_src_delete` of what `mcc_src_find` has found. -/
def erase (list : MccSrcList) (sa : MccIpAddr) : MccSrcList where
  entries := list.entries.eraseP (·.sa = sa)
  nodup := list.nodup.sublist (List.eraseP_sublist.map _)

def filter (list : MccSrcList) (p : MccSrcEntry → Bool) : MccSrcList where
  entries := list.entries.filter p
  nodup := list.nodup.sublist (List.filter_sublist.map _)

/-- Change the entries and not their addresses. -/
def map (list : MccSrcList) (f : MccSrcEntry → MccSrcEntry) (hf : ∀ e, (f e).sa = e.sa) :
    MccSrcList where
  entries := list.entries.map f
  nodup := by
    have hsame : addrs (list.entries.map f) = addrs list.entries := by
      rw [addrs, List.map_map]
      exact List.map_congr_left fun e _ => hf e
    rw [hsame]
    exact list.nodup

/-- `mcc_list_init`. -/
def empty : MccSrcList := ⟨[], List.nodup_nil⟩

end MccSrcList

/-! ## Clients -/

/-- `enum mcc_sa_action`; `MCC_SA_ACTION_NA` needs a mode that clients and groups do not have. -/
inductive MccSaAction
  | add
  | rem
deriving DecidableEq

/-- `mcc_src_list_action_get`. -/
def mccSrcListActionGet (fmode : FilterMode) (smode : Option MccSrcMode) : MccSaAction :=
  match smode, fmode with
  | none, _ => .add
  | some .allow, .incl => .add
  | some .block, .excl => .add
  | some .allow, .excl => .rem
  | some .block, .incl => .rem

/-- The loop of `mcc_clt_refresh`. -/
def mccCltSources (action : MccSaAction) (isStatic : Bool) (srcList : List MccSrcEntry)
    (own : MccSrcList) : MccSrcList :=
  match action with
  | .add => srcList.foldl (fun own e => own.add { e with ibwAny := false }) own
  | .rem => srcList.foldl (fun own e =>
      match mccSrcFind own.entries e.sa with
      | some src => if src.isStatic = isStatic then own.erase e.sa else own
      | none => own) own

/-- `mcc_clt_refresh`; `none` if the client is deleted. -/
def mccCltRefresh (srcList : MccSrcList) (clt : MccCltEntry) : Option MccCltEntry :=
  let own := if clt.smode = none then .empty else clt.srcList
  let own := mccCltSources (mccSrcListActionGet clt.fmode clt.smode) clt.isStatic
    srcList.entries own
  -- the dummy entry goes with the mode
  let own := if clt.fmode = .incl then own.erase mccIpAny else own
  if own.entries = [] ∧ (clt.fmode = .incl ∨ clt.smode = some .block) ∨
      srcList.entries = [] ∧ clt.fmode = .incl then none
  else some { clt with srcList := own }

/-- `mcc_grp_refresh`; `none` if the group is deleted. -/
def mccGrpRefresh (grp : MccGrpEntry) : Option MccGrpEntry :=
  let grp := mccGrpStateUpdate grp
  if grp.fmode = .incl ∧ grp.srcLinkList = [] ∨ grp.cltList = [] then none else some grp

theorem cltList_mccGrpRefresh {grp refreshed : MccGrpEntry}
    (h : mccGrpRefresh grp = some refreshed) : refreshed.cltList = grp.cltList := by
  have ⟨_, hsome⟩ := Option.ite_none_left_eq_some.mp h
  rw [← Option.some.inj hsome]
  rfl

/-! ## Records -/

/-- The record types of IGMPv3 and MLDv2. -/
inductive MccProtRecType
  | isInclude
  | isExclude
  | changeToInclude
  | changeToExclude
  | allowNewSources
  | blockOldSources
deriving DecidableEq

/-- What `mcc_rec_get` reads from a packet. -/
structure MccPktRec where
  version : Nat
  port : Nat
  cvid : BitVec 16
  svid : BitVec 16
  ga : MccIpAddr
  ca : MccIpAddr
  recType : MccProtRecType
  sas : List MccIpAddr
deriving DecidableEq

/-- `struct mcc_rec`. -/
structure MccRec where
  unauth : Bool
  passUnauth : Bool
  discard : Bool
  version : Nat
  flwId : BitVec 8
  port : Nat
  cvid : BitVec 16
  svid : BitVec 16
  da : MccIpAddr
  ca : MccIpAddr
  srcList : MccSrcList
  fmode : Option FilterMode
  smode : Option MccSrcMode
deriving DecidableEq

/-- The modes of a record; ALLOW and BLOCK need a source. -/
def mccRecModes (recType : MccProtRecType) (sas : List MccIpAddr) :
    Option (Option FilterMode × Option MccSrcMode) :=
  match recType with
  | .isInclude | .changeToInclude => some (some .incl, none)
  | .isExclude | .changeToExclude => some (some .excl, none)
  | .allowNewSources => if sas = [] then none else some (none, some .allow)
  | .blockOldSources => if sas = [] then none else some (none, some .block)

def mccRecSources (fmode : Option FilterMode) (sas : List MccIpAddr) : MccSrcList :=
  let sas := if fmode = some .excl ∧ sas = [] then [mccIpAny] else sas
  sas.foldl (fun list sa => list.add ⟨sa, 0, false, false⟩) .empty

/-- `mcc_rec_get`. -/
def mccRecGet (pkt : MccPktRec) : Option MccRec :=
  (mccRecModes pkt.recType pkt.sas).map fun (fmode, smode) =>
    { unauth := false
      passUnauth := false
      discard := false
      version := pkt.version
      flwId := 0
      port := pkt.port
      cvid := pkt.cvid
      svid := pkt.svid
      da := pkt.ga
      ca := pkt.ca
      srcList := mccRecSources fmode pkt.sas
      fmode := fmode
      smode := smode }

/-! ## The checks -/

/-- `struct mcc_omci_wlist`. -/
structure MccOmciWlist where
  srcList : MccSrcList
  vid : BitVec 16
  passUnauth : Bool
  supportedProtMask : BitVec 32
deriving DecidableEq

/-- `mcc_rec_wlist_apply`. That `mcc_src_list_subtract` reads an entry that it has deleted is not
modelled here. -/
def mccRecWlistApply (wlist : MccSrcList) (rec : MccRec) : MccRec :=
  if rec.srcList.entries = [] ∨ wlist.entries = [] then rec
  else
    match mccSrcFind wlist.entries mccIpAny with
    | some src =>
        { rec with
          srcList := rec.srcList.map (fun e => { e with ibwAny := true, ibw := src.ibw })
            fun _ => rfl }
    | none =>
        if rec.fmode = some .excl then
          -- all listed sources but the excluded ones
          { rec with
            fmode := some .incl
            srcList := (wlist.filter fun e => e.sa ∉ addrs rec.srcList.entries).map
              (fun e => { e with ibwAny := false }) fun _ => rfl }
        else
          { rec with
            srcList := (rec.srcList.filter fun e => e.sa ∈ addrs wlist.entries).map
              (fun e => { e with ibw := ((mccSrcFind wlist.entries e.sa).map
                MccSrcEntry.ibw).getD e.ibw }) fun _ => rfl }

/-- `struct mcc_capacity`. -/
structure MccCapacity where
  str : BitVec 32
  ibw : BitVec 64
deriving DecidableEq

def MccCapacity.charge (cap : MccCapacity) (e : MccSrcEntry) : MccCapacity :=
  ⟨cap.str + 1, cap.ibw + e.ibw.setWidth 64⟩

/-- The sources of a group, in the capacity of a port. -/
def mccSrcCapacity : List MccSrcEntry → MccCapacity → MccCapacity
  | [], cap => cap
  | src :: rest, cap =>
      if src.ibwAny then cap.charge src else mccSrcCapacity rest (cap.charge src)

def mccFlwCapacity (flwList : List MccFlwEntry) : MccCapacity :=
  flwList.foldl (fun cap flw =>
    flw.grpList.foldl (fun cap grp => mccSrcCapacity grp.srcLinkList cap) cap) ⟨0, 0⟩

/-- `mcc_port_service_capacity_get`. -/
def mccPortServiceCapacityGet (port : MccPort) (cvid : BitVec 16) : MccCapacity :=
  mccFlwCapacity (port.flwList.filter (·.cvid = cvid))

/-- `mcc_port_total_capacity_get`. -/
def mccPortTotalCapacityGet (port : MccPort) : MccCapacity := mccFlwCapacity port.flwList

/-- What the subscriber entity of a port limits. -/
structure MccLimits where
  maxSimultaneousGroup : BitVec 16
  maxMcBw : BitVec 32
  bwEnforcement : Bool
deriving DecidableEq

/-- `mcc_omci_port_total_capacity_get`. -/
def mccOmciPortTotalCapacityGet (limits : MccLimits) : MccCapacity :=
  ⟨limits.maxSimultaneousGroup.setWidth 32, limits.maxMcBw.setWidth 64⟩

/-- `mcc_omci_port_service_capacity_get`. -/
def mccOmciPortServiceCapacityGet : MccCapacity := ⟨0, 0⟩

def flagByte (flag : Bool) : BitVec 8 := if flag then 1 else 0

/-- What `mcc_src_find` takes for the address of an entry of a group. `SRC_LE2SRC` counts back
from `src_le`, but the entries of a group are linked by `grp_le`, which comes 8 bytes later:
the second half of the address is read as the first, then the fields that follow it. -/
def MccSrcEntry.misread (e : MccSrcEntry) : MccIpAddr :=
  e.sa.setWidth 64 ++ e.ibw ++ flagByte e.ibwAny ++ 0#8 ++ flagByte e.isStatic ++ 0#8

/-- `mcc_src_find` on the list of a group. -/
def mccGrpSrcFind (grp : MccGrpEntry) (sa : MccIpAddr) : Option MccSrcEntry :=
  grp.srcLinkList.find? (·.misread = sa)

/-- The increment that `mcc_rec_restrict` calculates. -/
def mccCapIncr (grp : Option MccGrpEntry) : List MccSrcEntry → MccCapacity → MccCapacity
  | [], incr => incr
  | e :: rest, incr =>
      if e.ibwAny then if grp.isNone then ⟨1, e.ibw.setWidth 64⟩ else incr
      else if grp.any fun grp => (mccGrpSrcFind grp e.sa).isSome then mccCapIncr grp rest incr
      else mccCapIncr grp rest (incr.charge e)

def MccCapacity.plus (cap incr : MccCapacity) : MccCapacity :=
  ⟨cap.str + incr.str, cap.ibw + incr.ibw⟩

def MccCapacity.discards (maxCap cap : MccCapacity) (ibwEnf : Bool) : Bool :=
  maxCap.str ≠ 0 ∧ maxCap.str < cap.str ∨ maxCap.ibw ≠ 0 ∧ maxCap.ibw < cap.ibw ∧ ibwEnf = true

def MccCapacity.exceeds (maxCap cap : MccCapacity) : Bool :=
  maxCap.ibw ≠ 0 ∧ maxCap.ibw < cap.ibw

/-- The end of `mcc_rec_restrict`: the increment against the limits. -/
def mccRecCharge (limits : MccLimits) (port : MccPort) (rec : MccRec) (incr : MccCapacity) :
    MccPort × MccRec :=
  let service := (mccPortServiceCapacityGet port rec.cvid).plus incr
  let total := (mccPortTotalCapacityGet port).plus incr
  let maxService := mccOmciPortServiceCapacityGet
  let maxTotal := mccOmciPortTotalCapacityGet limits
  let discard := maxService.discards service limits.bwEnforcement ||
    maxTotal.discards total limits.bwEnforcement
  let bwExc := maxService.exceeds service || maxTotal.exceeds total
  ({ port with exceMsgCnt := if bwExc then port.exceMsgCnt + 1 else port.exceMsgCnt },
    { rec with discard := rec.discard || discard })

/-- `mcc_rec_restrict`. -/
def mccRecRestrict (limits : MccLimits) (wlist : MccOmciWlist) (port : MccPort) (rec : MccRec) :
    MccPort × MccRec :=
  if wlist.supportedProtMask.getLsbD rec.version = false then
    (port, { rec with discard := true })
  else if rec.fmode = some .incl ∧ rec.srcList.entries = [] then (port, rec)
  else if wlist.srcList.entries = [] then (port, { rec with unauth := true })
  else
    let applied := mccRecWlistApply wlist.srcList rec
    if applied.srcList.entries = [] then (port, { applied with unauth := true })
    else
      let grp := port.grp applied.flwId applied.da
      let fmode := (grp.map MccGrpEntry.fmode).getD .incl
      if mccSrcListActionGet fmode applied.smode = .rem then (port, applied)
      else
        let incr := mccCapIncr grp applied.srcList.entries ⟨0, 0⟩
        let port := { port with joinMsgCnt := port.joinMsgCnt + 1 }
        if incr.str = 0 then (port, applied) else mccRecCharge limits port applied incr

/-! ## Processing -/

/-- `MCC_VLAN_UNAWARE_SVID`. -/
def mccVlanUnawareSvid : BitVec 16 := 4097

/-- `enum mcc_vlan_mode`. -/
inductive MccVlanMode
  | unaware
  | aware
  | other
deriving DecidableEq

/-- What `mcc_omci_port_me_get` finds, with the result of `mcc_omci_flw_wlist_get`. -/
inductive MccPortMe
  | found (limits : MccLimits) (wlist : Option MccOmciWlist)
  | notFound
  | error

/-- What `mcc_omci_mc_addr_table_match` finds. -/
inductive MccAddrTable
  | accepted
  | notAccepted
  | error
deriving DecidableEq

/-- What a record meets with. -/
structure MccEnv where
  vlanMode : MccVlanMode
  portMe : MccPortMe
  /-- `mcc_dev_fid_get`. -/
  fid : BitVec 16 → Option (BitVec 8)
  /-- `OMCI_IOP_OPTION_0`. -/
  iopOption0 : Bool
  addrTable : MccAddrTable
  /-- `mcc_omci_mc_bridge_info_get`. -/
  bridgeInfo : Nat → Option (BitVec 16)

/-- The VLAN of the stream for a record; `none` is an error. -/
def MccEnv.svid (env : MccEnv) (rec : MccRec) : Option (BitVec 16) :=
  match env.vlanMode with
  | .unaware => some 0
  | .aware => some rec.svid
  | .other => none

/-- The VLAN that the white list gives. -/
def MccEnv.wlistSvid (env : MccEnv) (wlist : MccOmciWlist) (svid : BitVec 16) : BitVec 16 :=
  if env.vlanMode = .aware then
    if wlist.vid = mccVlanUnawareSvid then 0 else wlist.vid
  else svid

/-- The port and the record after the checks of `mcc_rec_process`, and whether it goes on. -/
structure MccChecked where
  port : MccPort
  record : MccRec
  accepted : Bool

/-- `mcc_rec_process` up to the address table. -/
def mccRecCheck (env : MccEnv) (port : MccPort) (rec : MccRec) : MccChecked :=
  match env.svid rec with
  | none => ⟨port, rec, false⟩
  | some svid =>
      match env.portMe with
      | .error => ⟨port, rec, false⟩
      | .notFound =>
          match env.fid svid with
          | none => ⟨port, rec, false⟩
          | some flwId => ⟨port, { rec with flwId }, true⟩
      | .found _ none => ⟨port, rec, false⟩
      | .found limits (some wlist) =>
          match env.fid (env.wlistSvid wlist svid) with
          | none => ⟨port, rec, false⟩
          | some flwId =>
              let restricted := mccRecRestrict limits wlist port { rec with flwId }
              let record := { restricted.2 with passUnauth := wlist.passUnauth }
              ⟨restricted.1, record,
                !record.discard && (!record.unauth || env.iopOption0)⟩

/-- Find or create the client, set its modes and refresh it. -/
def mccCltUpdate (rec : MccRec) (cltList : List MccCltEntry) : List MccCltEntry :=
  upsert MccCltEntry.ca rec.ca ⟨rec.ca, .empty, .incl, none, false⟩
    (fun clt => mccCltRefresh rec.srcList
      { clt with fmode := rec.fmode.getD clt.fmode, smode := rec.smode.or clt.smode })
    cltList

def mccGrpUpdate (rec : MccRec) (grpList : List MccGrpEntry) : List MccGrpEntry :=
  upsert MccGrpEntry.da rec.da ⟨rec.da, [], [], .incl, false⟩
    (fun grp => mccGrpRefresh { grp with cltList := mccCltUpdate rec grp.cltList }) grpList

/-- Find or create the flow; it is deleted with its last group. -/
def mccFlwUpdate (rec : MccRec) (flwList : List MccFlwEntry) : List MccFlwEntry :=
  upsert MccFlwEntry.id rec.flwId ⟨rec.flwId, rec.cvid, []⟩
    (fun flw =>
      let grpList := mccGrpUpdate rec flw.grpList
      if grpList = [] then none else some { flw with grpList }) flwList

/-- `mcc_rec_process` on its port. -/
def mccPortProcess (env : MccEnv) (port : MccPort) (rec : MccRec) : MccPort :=
  let checked := mccRecCheck env port rec
  if checked.accepted && env.addrTable = .accepted then
    { checked.port with flwList := mccFlwUpdate checked.record checked.port.flwList }
  else checked.port

/-- `mcc_rec_process`, with the forwarding. -/
def mccRecProcess (env : MccEnv) (ports : List MccPort) (rec : MccRec) :
    List MccPort × Option MccDevCall :=
  match ports[rec.port]? with
  | none => (ports, none)
  | some port =>
      let checked := mccRecCheck env port rec
      let ports := ports.set rec.port (mccPortProcess env port rec)
      if checked.accepted && env.addrTable = .accepted then
        (ports, mccFwdRefresh env.bridgeInfo ports rec.port checked.record.flwId
          checked.record.da)
      else (ports, none)

/-- `mcc_grp_aging_timeout_handler` on its port; the flow stays. -/
def mccPortAging (port : MccPort) (fid : BitVec 8) (da : MccIpAddr) : MccPort :=
  { port with
    flwList := port.flwList.map fun flw =>
      if flw.id = fid then { flw with grpList := flw.grpList.eraseP (·.da = da) } else flw }

/-- A port as `mcc_init` and `mcc_group_list_clear` leave it. -/
def mccPortClear : MccPort := ⟨[], 0, 0⟩

/-- What happens to the groups of a port. -/
inductive MccPortEvent
  | report (env : MccEnv) (pkt : MccPktRec)
  | aging (fid : BitVec 8) (da : MccIpAddr)
  | clear

/-- One event on a port. -/
def mccPortStep (port : MccPort) : MccPortEvent → MccPort
  | .report env pkt =>
      match mccRecGet pkt with
      | none => port
      | some rec => mccPortProcess env port rec
  | .aging fid da => mccPortAging port fid da
  | .clear => mccPortClear

/-! ## What an event changes -/

def MccPort.AllGrps (Q : MccGrpEntry → Prop) (port : MccPort) : Prop :=
  ∀ flw ∈ port.flwList, ∀ grp ∈ flw.grpList, Q grp

theorem MccPort.AllGrps.clear {Q : MccGrpEntry → Prop} : mccPortClear.AllGrps Q := by
  intro flw hflw
  cases hflw

def MccPort.grpFor (port : MccPort) (rec : MccRec) : MccGrpEntry :=
  (port.grp rec.flwId rec.da).getD ⟨rec.da, [], [], .incl, false⟩

/-- The group after the record; `none` if it is deleted. -/
def MccPort.grpAfter (port : MccPort) (rec : MccRec) : Option MccGrpEntry :=
  mccGrpRefresh { port.grpFor rec with cltList := mccCltUpdate rec (port.grpFor rec).cltList }

theorem mccRecRestrict_flwList (limits : MccLimits) (wlist : MccOmciWlist) (port : MccPort)
    (rec : MccRec) : (mccRecRestrict limits wlist port rec).1.flwList = port.flwList := by
  simp only [mccRecRestrict, mccRecCharge]
  repeat' split
  all_goals rfl

/-- A record is refused, or it goes on with its flow, restricted if there is a white list. -/
theorem mccRecCheck_cases {P : MccChecked → Prop} {env : MccEnv} {port : MccPort} {rec : MccRec}
    (hrefused : P ⟨port, rec, false⟩) (hfree : ∀ flwId, P ⟨port, { rec with flwId }, true⟩)
    (hlisted : ∀ limits wlist flwId accepted,
      P ⟨(mccRecRestrict limits wlist port { rec with flwId }).1,
        { (mccRecRestrict limits wlist port { rec with flwId }).2 with
          passUnauth := wlist.passUnauth }, accepted⟩) :
    P (mccRecCheck env port rec) := by
  unfold mccRecCheck
  cases env.svid rec with
  | none => exact hrefused
  | some svid =>
      cases env.portMe with
      | error => exact hrefused
      | notFound =>
          dsimp only
          split
          · exact hrefused
          · exact hfree _
      | found limits wlist =>
          cases wlist with
          | none => exact hrefused
          | some wlist =>
              dsimp only
              split
              · exact hrefused
              · exact hlisted limits wlist _ _

theorem mccRecCheck_flwList (env : MccEnv) (port : MccPort) (rec : MccRec) :
    (mccRecCheck env port rec).port.flwList = port.flwList := by
  apply mccRecCheck_cases (P := fun checked => checked.port.flwList = port.flwList) rfl
  · exact fun _ => rfl
  · exact fun limits wlist _ _ => mccRecRestrict_flwList limits wlist port _

section AllGrps

variable {Q : MccGrpEntry → Prop} {port : MccPort}

theorem MccPort.AllGrps.grpFor (hport : port.AllGrps Q) (rec : MccRec) :
    Q (port.grpFor rec) ∨ (port.grpFor rec).cltList = [] := by
  unfold MccPort.grpFor
  cases hgrp : port.grp rec.flwId rec.da with
  | none => exact .inr rfl
  | some grp =>
      obtain ⟨flw, hflw, hfind⟩ := Option.bind_eq_some_iff.mp hgrp
      exact .inl (hport flw (mem_findKey hflw) grp (mem_findKey hfind))

/-- A record leaves all groups but its own as they are. -/
theorem MccPort.AllGrps.flwUpdate (hport : port.AllGrps Q) {rec : MccRec}
    (hafter : ∀ after, port.grpAfter rec = some after → Q after) :
    ∀ flw ∈ mccFlwUpdate rec port.flwList, ∀ grp ∈ flw.grpList, Q grp := by
  intro flw hflw grp hgrp
  rcases mem_upsert hflw with hold | hnew
  · exact hport flw hold grp hgrp
  · simp only at hnew
    split at hnew
    · cases hnew
    · cases hnew
      rcases mem_upsert hgrp with hold | hnew
      · cases hfind : findKey MccFlwEntry.id rec.flwId port.flwList with
        | none =>
            rw [hfind] at hold
            cases hold
        | some found =>
            rw [hfind] at hold
            exact hport found (mem_findKey hfind) grp hold
      · apply hafter
        rw [← hnew, MccPort.grpAfter, MccPort.grpFor, MccPort.grp, mccFlwFind]
        cases findKey MccFlwEntry.id rec.flwId port.flwList <;> rfl

/-- A property that a refresh gives to its group, all groups have after an event. -/
theorem MccPort.AllGrps.step (hrefresh : ∀ (grp : MccGrpEntry) (rec : MccRec) (after : MccGrpEntry),
      Q grp ∨ grp.cltList = [] →
      mccGrpRefresh { grp with cltList := mccCltUpdate rec grp.cltList } = some after → Q after)
    (hport : port.AllGrps Q) (event : MccPortEvent) : (mccPortStep port event).AllGrps Q := by
  cases event with
  | report env pkt =>
      rw [mccPortStep]
      cases mccRecGet pkt with
      | none => exact hport
      | some rec =>
          have hchecked : (mccRecCheck env port rec).port.AllGrps Q := by
            intro flw hflw
            rw [mccRecCheck_flwList] at hflw
            exact hport flw hflw
          simp only [mccPortProcess]
          split
          · exact hchecked.flwUpdate fun after hafter =>
              hrefresh _ _ after (hchecked.grpFor _) hafter
          · exact hchecked
  | aging fid da =>
      intro flw hflw grp hgrp
      obtain ⟨before, hbefore, rfl⟩ := List.mem_map.mp hflw
      split at hgrp
      · exact hport before hbefore grp (List.mem_of_mem_eraseP hgrp)
      · exact hport before hbefore grp hgrp
  | clear => exact MccPort.AllGrps.clear

end AllGrps

/-! ## All ports -/

/-- What happens to the groups of all ports. -/
inductive MccEvent
  | report (env : MccEnv) (pkt : MccPktRec)
  | aging (port : Nat) (fid : BitVec 8) (da : MccIpAddr)
  | clear (port : Nat)

/-- One event. -/
def mccStep (ports : List MccPort) : MccEvent → List MccPort
  | .report env pkt =>
      match mccRecGet pkt with
      | none => ports
      | some rec => (mccRecProcess env ports rec).1
  | .aging port fid da => ports.modify port (mccPortAging · fid da)
  | .clear port => ports.modify port fun _ => mccPortClear

def mccRun (maxPorts : Nat) (events : List MccEvent) : List MccPort :=
  events.foldl mccStep (List.replicate maxPorts mccPortClear)

/-- What an event is to a port. -/
def MccEvent.on (index : Nat) : MccEvent → Option MccPortEvent
  | .report env pkt => if pkt.port = index then some (.report env pkt) else none
  | .aging port fid da => if port = index then some (.aging fid da) else none
  | .clear port => if port = index then some .clear else none

theorem port_mccRecGet {pkt : MccPktRec} {rec : MccRec} (hrec : mccRecGet pkt = some rec) :
    rec.port = pkt.port := by
  obtain ⟨_, _, rfl⟩ := Option.map_eq_some_iff.mp hrec
  rfl

/-- The ports do not touch each other. -/
theorem mccStep_getElem? (ports : List MccPort) (event : MccEvent) (index : Nat) :
    (mccStep ports event)[index]? =
      ports[index]?.map fun port => ((event.on index).map (mccPortStep port)).getD port := by
  cases event with
  | report env pkt =>
      rw [mccStep, MccEvent.on]
      cases hrec : mccRecGet pkt with
      | none =>
          by_cases hindex : pkt.port = index <;> simp [hindex, mccPortStep, hrec]
      | some rec =>
          rw [← port_mccRecGet hrec]
          simp only [mccRecProcess]
          by_cases hindex : rec.port = index
          · subst hindex
            cases hport : ports[rec.port]? with
            | none => simp [hport]
            | some port =>
                have hlt : rec.port < ports.length := (List.getElem?_eq_some_iff.mp hport).1
                simp only
                split <;> simp [hlt, mccPortStep, hrec]
          · cases hport : ports[rec.port]? with
            | none => simp [hindex]
            | some port =>
                simp only
                split <;> simp [hindex]
  | aging port fid da | clear port =>
      rw [mccStep, MccEvent.on, List.getElem?_modify]
      by_cases hindex : port = index <;> simp [hindex, mccPortStep]

theorem length_mccStep (ports : List MccPort) (event : MccEvent) :
    (mccStep ports event).length = ports.length := by
  cases event with
  | report env pkt =>
      rw [mccStep]
      cases mccRecGet pkt with
      | none => rfl
      | some rec =>
          simp only [mccRecProcess]
          cases ports[rec.port]? with
          | none => rfl
          | some port =>
              simp only
              split <;> exact List.length_set
  | aging port fid da => exact List.length_modify _ _ _
  | clear port => exact List.length_modify _ _ _

theorem length_mccRun (maxPorts : Nat) (events : List MccEvent) :
    (mccRun maxPorts events).length = maxPorts := by
  have hrun : ∀ ports : List MccPort, (events.foldl mccStep ports).length = ports.length := by
    induction events with
    | nil => exact fun _ => rfl
    | cons event rest ih =>
        intro ports
        rw [List.foldl_cons, ih, length_mccStep]
  rw [mccRun, hrun, List.length_replicate]

/-- A port after a run is as its own events leave it. -/
theorem mccRun_getElem? {maxPorts index : Nat} (hindex : index < maxPorts)
    (events : List MccEvent) : (mccRun maxPorts events)[index]? =
      some ((events.filterMap (MccEvent.on index)).foldl mccPortStep mccPortClear) := by
  have hrun : ∀ (ports : List MccPort) (port : MccPort), ports[index]? = some port →
      (events.foldl mccStep ports)[index]? =
        some ((events.filterMap (MccEvent.on index)).foldl mccPortStep port) := by
    induction events with
    | nil => exact fun _ _ hport => hport
    | cons event rest ih =>
        intro ports port hport
        rw [List.foldl_cons]
        have hstep := mccStep_getElem? ports event index
        rw [hport, Option.map_some] at hstep
        rw [ih _ _ hstep, List.filterMap_cons]
        cases event.on index <;> rfl
  exact hrun _ _ (by simp [hindex])

end FalconGpon.Mcc
