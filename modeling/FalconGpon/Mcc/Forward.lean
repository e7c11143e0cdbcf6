/-
# Forwarding

`mcc_fwd_refresh` gathers the state of a group on all ports of a bridge and hands one
forwarding entry to the device: which ports receive the group, from which sources. It walks
over the ports as `mcc_grp_state_update` walks over the clients of a group.
-/

import FalconGpon.Lib.Upsert
import FalconGpon.Mcc.Group

namespace FalconGpon.Mcc

open FalconGpon.Lib

/-- `struct mcc_flw_entry`. -/
structure MccFlwEntry where
  id : BitVec 8
  cvid : BitVec 16
  grpList : List MccGrpEntry
deriving DecidableEq

/-- `struct mcc_port`, without its rate limiter. -/
structure MccPort where
  flwList : List MccFlwEntry
  joinMsgCnt : BitVec 32
  exceMsgCnt : BitVec 32
deriving DecidableEq

/-- `mcc_flw_find`. -/
def mccFlwFind (flwList : List MccFlwEntry) (fid : BitVec 8) : Option MccFlwEntry :=
  findKey MccFlwEntry.id fid flwList

/-- `mcc_grp_find`. -/
def mccGrpFind (grpList : List MccGrpEntry) (da : MccIpAddr) : Option MccGrpEntry :=
  findKey MccGrpEntry.da da grpList

def MccPort.grp (port : MccPort) (fid : BitVec 8) (da : MccIpAddr) : Option MccGrpEntry :=
  (mccFlwFind port.flwList fid).bind fun flw => mccGrpFind flw.grpList da

/-- `mcc_fwd_slist_intersect`. -/
def mccFwdSlistIntersect : List MccSrcEntry → List MccSrcEntry → List MccSrcEntry :=
  slistIntersect

/-- `mcc_fwd_slist_subtract`. -/
def mccFwdSlistSubtract : List MccSrcEntry → List MccSrcEntry → List MccSrcEntry :=
  slistSubtract

/-- `mcc_fwd_slist_unite`. -/
def mccFwdSlistUnite : List MccSrcEntry → List MccSrcEntry → List MccSrcEntry := slistUnite

/-- What is asked of the device. -/
inductive MccDevCall
  /-- `mcc_dev_port_remove`. -/
  | portRemove (lanPort : Nat) (fid : BitVec 8) (da : MccIpAddr)
  /-- `mcc_dev_fwd_update`. -/
  | fwdUpdate (fid : BitVec 8) (fmode : FilterMode) (bridgeId : BitVec 16) (portMap : BitVec 8)
      (da : MccIpAddr) (fwdSlist : List MccSrcEntry)
deriving DecidableEq

/-- The groups that `mcc_fwd_refresh` finds on the ports of a bridge, with the index of the
port; `bridgeInfo` is `mcc_omci_mc_bridge_info_get`. -/
def mccFwdGrps (bridgeInfo : Nat → Option (BitVec 16)) (bridgeId : BitVec 16)
    (ports : List MccPort) (fid : BitVec 8) (da : MccIpAddr) : List (MccGrpEntry × Nat) :=
  ports.zipIdx.filterMap fun port =>
    if bridgeInfo port.2 = some bridgeId then (port.1.grp fid da).map (·, port.2) else none

/-- The sources that `mcc_fwd_refresh` gathers. -/
def mccFwdSlist (fmode : FilterMode) (grps : List MccGrpEntry) : List MccSrcEntry :=
  match fmode with
  | .excl =>
      let list := grps.foldl (fun list grp =>
        if grp.fmode = .excl then mccFwdSlistIntersect list grp.srcLinkList else list) []
      grps.foldl (fun list grp =>
        if grp.fmode = .incl then mccFwdSlistSubtract list grp.srcLinkList else list) list
  | .incl => grps.foldl (fun list grp => mccFwdSlistUnite list grp.srcLinkList) []

/-- `mcc_fwd_refresh`; `none` if the bridge of the port is not known. -/
def mccFwdRefresh (bridgeInfo : Nat → Option (BitVec 16)) (ports : List MccPort)
    (lanPortIdx : Nat) (fid : BitVec 8) (da : MccIpAddr) : Option MccDevCall :=
  (bridgeInfo lanPortIdx).map fun bridgeId =>
    let grp := mccFwdGrps bridgeInfo bridgeId ports fid da
    let portMap := grp.foldl (fun portMap grp => portMap ||| (1#8 <<< grp.2)) 0
    let fwdMode := grp.foldl (fun fwdMode grp =>
      let fwdMode := if grp.1.fmode = .incl then some .incl else fwdMode
      if grp.1.fmode = .excl then some .excl else fwdMode) none
    match fwdMode with
    | some fmode =>
        .fwdUpdate fid fmode bridgeId portMap da (mccFwdSlist fmode (grp.map Prod.fst))
    | none => .portRemove lanPortIdx fid da

def MccGrpEntry.record (grp : MccGrpEntry) : MccRecord := ⟨grp.fmode, grp.srcLinkList⟩

end FalconGpon.Mcc
