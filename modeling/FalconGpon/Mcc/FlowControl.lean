/-
# Flow control, queries and ageing

Multicast flows come onto the ports not only by the records of clients: the management creates
and deletes static and dynamic flows (`mcc_port_mc_flow_control`), ranges of them, and resets
ports. Queries start the ageing timers of groups (`mcc_qry_process`), a refresh stops them, and
when one expires its group goes. The state here is that of all ports with the pending timers
and with the forwarding table of the device, which is behind the driver.
-/

import FalconGpon.Lib.Transition
import FalconGpon.Mcc.Record

namespace FalconGpon.Mcc

open FalconGpon.Lib

/-! ## Addresses -/

/-- The member `ipv4` of `union mcc_ip_addr`. -/
def mccIpv4 (ip : MccIpAddr) : BitVec 32 := ip.extractLsb' 96 32

/-- `mcc_is_ipv6`. -/
def mccIsIpv6 (ip : MccIpAddr) : Bool := ip.extractLsb' 120 8 = 0xff

/-- `mcc_ip_addr_get`: of an address that is not a multicast one of IPv6, the last four bytes. -/
def mccIpAddrGet (raw : BitVec 128) : MccIpAddr :=
  if mccIsIpv6 raw then raw else raw.extractLsb' 0 32 ++ 0#96

/-- What `mcc_port_mc_flow_range_delete` copies from the address of a group. -/
def mccIpRaw (da : MccIpAddr) : BitVec 128 :=
  if mccIsIpv6 da then da else (mccIpv4 da).setWidth 128

/-! ## The device -/

/-- The calls of the driver that change the forwarding of multicast groups. -/
inductive MccIoctl
  /-- `FIO_GPE_SHORT_FWD_IPV4_MC_PORT_MODIFY`. -/
  | portModify (bridgeIndex : BitVec 16) (portMap : BitVec 8) (fid : BitVec 8) (ip : BitVec 32)
  /-- `FIO_GPE_SHORT_FWD_IPV4_MC_PORT_ADD`. -/
  | portAdd (lanPort : Nat) (fid : BitVec 8) (ip : BitVec 32)
  /-- `FIO_GPE_SHORT_FWD_IPV4_MC_PORT_DELETE`. -/
  | portDelete (lanPort : Nat) (fid : BitVec 8) (ip : BitVec 32)
deriving DecidableEq

/-- `mcc_dev_fwd_update` and `mcc_dev_port_remove`: neither the sources nor the mode go to the
driver, and of the group four bytes. -/
def MccDevCall.ioctl : MccDevCall → MccIoctl
  | .portRemove lanPort fid da => .portDelete lanPort fid (mccIpv4 da)
  | .fwdUpdate fid _ bridgeId portMap da _ => .portModify bridgeId portMap fid (mccIpv4 da)

/-- The driver: what a call does (`none` if it fails), and which ports get a group. -/
structure MccDriver (D : Type*) where
  ioctl : D → MccIoctl → Option D
  Forwards : D → Nat → BitVec 8 → BitVec 32 → Prop

/-- What the header of the driver says of its calls. -/
structure MccDriver.Documented {D : Type*} (drv : MccDriver D) : Prop where
  modify : ∀ {dev dev' bridge portMap fid ip port},
    drv.ioctl dev (.portModify bridge portMap fid ip) = some dev' →
      portMap.getLsbD port = true → drv.Forwards dev' port fid ip
  modify_other : ∀ {dev dev' bridge portMap fid ip port fid' ip'},
    drv.ioctl dev (.portModify bridge portMap fid ip) = some dev' → (fid', ip') ≠ (fid, ip) →
      drv.Forwards dev port fid' ip' → drv.Forwards dev' port fid' ip'
  add : ∀ {dev dev' lanPort fid ip port fid' ip'},
    drv.ioctl dev (.portAdd lanPort fid ip) = some dev' →
      drv.Forwards dev port fid' ip' → drv.Forwards dev' port fid' ip'
  delete_other : ∀ {dev dev' lanPort fid ip port fid' ip'},
    drv.ioctl dev (.portDelete lanPort fid ip) = some dev' →
      (port, fid', ip') ≠ (lanPort, fid, ip) →
      drv.Forwards dev port fid' ip' → drv.Forwards dev' port fid' ip'

/-! ## The state -/

/-- A group of a port. -/
structure MccGrpKey where
  port : Nat
  fid : BitVec 8
  da : MccIpAddr
deriving DecidableEq

/-- The ports, the groups whose ageing timer runs, and the device. -/
structure MccState (D : Type*) where
  ports : List MccPort
  ageing : List MccGrpKey
  dev : D

/-- The number of ports that `mcc_dev_init` gives. -/
def mccMaxPorts : Nat := 4

/-- `omci_mcc_init`. -/
def mccInit {D : Type*} (dev : D) : MccState D := ⟨List.replicate mccMaxPorts mccPortClear, [], dev⟩

/-- `mcc_clt_find`. -/
def mccCltFind (cltList : List MccCltEntry) (ca : MccIpAddr) : Option MccCltEntry :=
  findKey MccCltEntry.ca ca cltList

section Driver

variable {D : Type*} (drv : MccDriver D)

/-- `mcc_ioctl`, with whether it succeeds. -/
def mccIoctl (s : MccState D) (call : MccIoctl) : MccState D × Bool :=
  match drv.ioctl s.dev call with
  | some dev => ({ s with dev }, true)
  | none => (s, false)

/-! ## Changes of a client -/

/-- What changes the filter of one client of a group, found or created. -/
structure MccFlowOp where
  port : Nat
  fid : BitVec 8
  cvid : BitVec 16
  da : MccIpAddr
  ca : MccIpAddr
  isStatic : Bool
  fmode : Option FilterMode
  smode : Option MccSrcMode
  srcList : MccSrcList
deriving DecidableEq

def MccRec.flowOp (rec : MccRec) : MccFlowOp :=
  ⟨rec.port, rec.flwId, rec.cvid, rec.da, rec.ca, false, rec.fmode, rec.smode, rec.srcList⟩

/-- `mcc_clt_fmode_set` and `mcc_clt_smode_set`. -/
def MccFlowOp.setModes (op : MccFlowOp) (clt : MccCltEntry) : MccCltEntry :=
  { clt with fmode := op.fmode.getD clt.fmode, smode := op.smode.or clt.smode }

def mccCltApply (op : MccFlowOp) (cltList : List MccCltEntry) : List MccCltEntry :=
  upsert MccCltEntry.ca op.ca ⟨op.ca, .empty, .incl, none, op.isStatic⟩
    (fun clt => mccCltRefresh op.srcList (op.setModes clt)) cltList

def mccGrpApply (op : MccFlowOp) (grpList : List MccGrpEntry) : List MccGrpEntry :=
  upsert MccGrpEntry.da op.da ⟨op.da, [], [], .incl, op.isStatic⟩
    (fun grp => mccGrpRefresh { grp with cltList := mccCltApply op grp.cltList }) grpList

/-- Find or create the flow; it is deleted with its last group. -/
def mccFlwApply (op : MccFlowOp) (flwList : List MccFlwEntry) : List MccFlwEntry :=
  upsert MccFlwEntry.id op.fid ⟨op.fid, op.cvid, []⟩
    (fun flw =>
      let grpList := mccGrpApply op flw.grpList
      if grpList = [] then none else some { flw with grpList }) flwList

def MccFlowOp.key (op : MccFlowOp) : MccGrpKey := ⟨op.port, op.fid, op.da⟩

/-- The end of `mcc_rec_process` and of `mcc_port_mc_flow_control`: refresh client, group, flow
and forwarding; the refresh of the group stops its ageing timer. -/
def mccApply (bridgeInfo : Nat → Option (BitVec 16)) (s : MccState D) (op : MccFlowOp) :
    MccState D × Bool :=
  let ports := s.ports.modify op.port fun port =>
    { port with flwList := mccFlwApply op port.flwList }
  let s := { s with ports, ageing := s.ageing.filter (· ≠ op.key) }
  match mccFwdRefresh bridgeInfo ports op.port op.fid op.da with
  | none => (s, false)
  | some call => mccIoctl drv s call.ioctl

/-- `mcc_rec_process`. -/
def mccRecord (env : MccEnv) (s : MccState D) (rec : MccRec) : MccState D :=
  match s.ports[rec.port]? with
  | none => s
  | some port =>
      let checked := mccRecCheck env port rec
      let s := { s with ports := s.ports.set rec.port checked.port }
      if checked.accepted && env.addrTable = .accepted then
        (mccApply drv env.bridgeInfo s checked.record.flowOp).1
      else s

/-! ## Flow control -/

/-- `struct mcc_mc_flow`. -/
structure MccMcFlow where
  cvid : BitVec 16
  svid : BitVec 16
  da : BitVec 128
  sa : BitVec 128
  ca : BitVec 128
deriving DecidableEq

/-- The change that flow control makes to a client. -/
def MccMcFlow.op (flow : MccMcFlow) (port : Nat) (fid : BitVec 8) (add isStatic : Bool)
    (ca : MccIpAddr) : MccFlowOp :=
  let sa := mccIpAddrGet flow.sa
  let src : MccSrcList := ⟨[⟨sa, 0, false, true⟩], List.nodup_singleton _⟩
  { port, fid, ca, isStatic
    cvid := flow.cvid
    da := mccIpAddrGet flow.da
    fmode := if sa = mccIpAny then some (if add then .excl else .incl) else none
    smode := if sa = mccIpAny then none else some (if add then .allow else .block)
    srcList := if sa = mccIpAny ∧ add = false then .empty else src }

/-- The changes that `mcc_port_mc_flow_control` has to make; none if it returns an error. A
deletion for the client 0.0.0.0, if there is none, goes to the clients one after the other. -/
def mccFlowOps (port : MccPort) (portIdx : Nat) (fid : BitVec 8) (add isStatic : Bool)
    (flow : MccMcFlow) : List MccFlowOp :=
  let ca := mccIpAddrGet flow.ca
  let op := flow.op portIdx fid add isStatic
  match port.grp fid (mccIpAddrGet flow.da) with
  | none => if add then [op ca] else []
  | some grp =>
      if grp.isStatic = isStatic then
        match mccCltFind grp.cltList ca with
        | none =>
            if add then [op ca]
            else if ca = mccIpAny then grp.cltList.map fun clt => op clt.ca else []
        | some clt => if clt.isStatic = isStatic then [op ca] else []
      else []

def MccState.grp (s : MccState D) (key : MccGrpKey) : Option MccGrpEntry :=
  (s.ports[key.port]?).bind fun port => port.grp key.fid key.da

def MccState.clt (s : MccState D) (key : MccGrpKey) (ca : MccIpAddr) : Option MccCltEntry :=
  (s.grp key).bind fun grp => mccCltFind grp.cltList ca

/-- The loop `do_again`: `mcc_clt_next` finds no client after one that was deleted. -/
def mccFlowLoop (bridgeInfo : Nat → Option (BitVec 16)) :
    MccState D → List MccFlowOp → MccState D × Bool
  | s, [] => (s, false)
  | s, op :: rest =>
      let applied := mccApply drv bridgeInfo s op
      if rest = [] ∨ applied.1.clt op.key op.ca = none then applied
      else mccFlowLoop bridgeInfo applied.1 rest

/-- What flow control asks its surroundings. -/
structure MccFlowEnv where
  /-- `mcc_dev_fid_get`. -/
  fid : BitVec 16 → Option (BitVec 8)
  /-- `mcc_omci_mc_bridge_info_get`. -/
  bridgeInfo : Nat → Option (BitVec 16)

def MccFlowEnv.flowFid (env : MccFlowEnv) (svid : BitVec 16) : Option (BitVec 8) :=
  env.fid (if svid = mccVlanUnawareSvid then 0 else svid)

/-- The changes for a flow in a state. -/
def MccState.flowOps (s : MccState D) (env : MccFlowEnv) (port : Nat) (add isStatic : Bool)
    (flow : MccMcFlow) : List MccFlowOp :=
  match s.ports[port]?, env.flowFid flow.svid with
  | some entry, some fid => mccFlowOps entry port fid add isStatic flow
  | _, _ => []

/-- `mcc_port_mc_flow_control`, with whether it succeeds. -/
def mccPortMcFlowControl (env : MccFlowEnv) (s : MccState D) (port : Nat) (add isStatic : Bool)
    (flow : MccMcFlow) : MccState D × Bool :=
  mccFlowLoop drv env.bridgeInfo s (s.flowOps env port add isStatic flow)

/-- `mcc_port_static_flow_create`. -/
def mccPortStaticFlowCreate (env : MccFlowEnv) (s : MccState D) (port : Nat) (flow : MccMcFlow) :
    MccState D × Bool :=
  mccPortMcFlowControl drv env s port true true flow

/-- `struct mcc_mc_flow_range`. -/
structure MccMcFlowRange where
  cvid : BitVec 16
  svid : BitVec 16
  daS : BitVec 128
  daE : BitVec 128
  sa : BitVec 128
  ca : BitVec 128
deriving DecidableEq

def MccMcFlowRange.Has (range : MccMcFlowRange) (da : MccIpAddr) : Prop :=
  ¬ da < mccIpAddrGet range.daS ∧ ¬ mccIpAddrGet range.daE < da

instance (range : MccMcFlowRange) (da : MccIpAddr) : Decidable (range.Has da) :=
  inferInstanceAs (Decidable (_ ∧ _))

/-- The flows that `mcc_port_mc_flow_range_delete` goes through. -/
def MccState.rangeFlows (s : MccState D) (env : MccFlowEnv) (port : Nat)
    (range : MccMcFlowRange) : List MccMcFlow :=
  match s.ports[port]?, env.flowFid range.svid with
  | some entry, some fid =>
      (((mccFlwFind entry.flwList fid).map MccFlwEntry.grpList).getD []).filterMap fun e =>
        if range.Has e.da then
          some ⟨range.cvid, range.svid, mccIpRaw e.da, range.sa, range.ca⟩
        else none
  | _, _ => []

/-- `mcc_port_mc_flow_range_delete`; the results of the deletions are not looked at. -/
def mccPortMcFlowRangeDelete (env : MccFlowEnv) (s : MccState D) (port : Nat) (isStatic : Bool)
    (range : MccMcFlowRange) : MccState D :=
  (s.rangeFlows env port range).foldl
    (fun s flow => (mccPortMcFlowControl drv env s port false isStatic flow).1) s

/-- `mcc_port_reset`. -/
def mccPortReset (s : MccState D) (port : Nat) : MccState D :=
  match s.ports[port]? with
  | none => s
  | some entry =>
      let calls := entry.flwList.flatMap fun fe =>
        fe.grpList.map fun ge => MccIoctl.portDelete port fe.id (mccIpv4 ge.da)
      let s := calls.foldl (fun s call => (mccIoctl drv s call).1) s
      { s with
        ports := s.ports.set port mccPortClear
        ageing := s.ageing.filter (·.port ≠ port) }

/-! ## Queries and ageing -/

/-- What `mcc_qry_process` reads from a query. -/
structure MccQry where
  ga : MccIpAddr
  /-- `mcc_pkt_gmi_get`. -/
  gmi : BitVec 32
  svid : BitVec 16
  da : MccIpAddr

/-- What a query asks its surroundings. -/
structure MccQryEnv where
  /-- `mcc_dev_fid_get`. -/
  fid : BitVec 16 → Option (BitVec 8)
  /-- `mcc_omci_flw_gmi_get`. -/
  flwGmi : Nat → MccFlwEntry → Option (BitVec 32)

/-- `mcc_fwd_qry_update`. -/
def mccFwdQryUpdate (env : MccQryEnv) (qry : MccQry) :
    List Nat → MccState D → MccState D × Bool
  | [], s => (s, true)
  | port :: rest, s =>
      match env.fid qry.svid with
      | none => (s, false)
      | some fid =>
          let added := mccIoctl drv s (.portAdd port fid (mccIpv4 qry.da))
          if added.2 then mccFwdQryUpdate env qry rest added.1 else added

/-- The loop of `mcc_qry_process` over the groups of a flow; it looks neither at the flow nor at
the group for whether they are static. -/
def mccQryGrps (qry : MccQry) (port : Nat) (fid : BitVec 8) :
    BitVec 32 → List MccGrpEntry → List MccGrpKey → List MccGrpKey × Bool
  | _, [], ageing => (ageing, true)
  | gmi, grp :: rest, ageing =>
      if qry.ga ≠ mccIpAny ∧ grp.da ≠ qry.ga ∨ ⟨port, fid, grp.da⟩ ∈ ageing then
        mccQryGrps qry port fid gmi rest ageing
      else
        let gmi := if gmi = 0 then qry.gmi else gmi
        if gmi = 0 then (ageing, false)
        else mccQryGrps qry port fid gmi rest (⟨port, fid, grp.da⟩ :: ageing)

/-- The loop over the flows of a port. -/
def mccQryFlws (env : MccQryEnv) (qry : MccQry) (port : Nat) :
    List MccFlwEntry → List MccGrpKey → List MccGrpKey × Bool
  | [], ageing => (ageing, true)
  | flw :: rest, ageing =>
      if flw.grpList = [] then mccQryFlws env qry port rest ageing
      else
        match env.flwGmi port flw with
        | none => (ageing, false)
        | some gmi =>
            let started := mccQryGrps qry port flw.id gmi flw.grpList ageing
            if started.2 then mccQryFlws env qry port rest started.1 else started

/-- The loop over the ports. -/
def mccQryPorts (env : MccQryEnv) (qry : MccQry) :
    List (MccPort × Nat) → List MccGrpKey → List MccGrpKey
  | [], ageing => ageing
  | (port, index) :: rest, ageing =>
      let started := mccQryFlws env qry index port.flwList ageing
      if started.2 then mccQryPorts env qry rest started.1 else started.1

/-- `mcc_qry_process`. -/
def mccQryProcess (env : MccQryEnv) (qry : MccQry) (s : MccState D) : MccState D :=
  let updated :=
    if qry.ga = mccIpAny then mccFwdQryUpdate drv env qry (List.range s.ports.length) s
    else (s, true)
  if updated.2 then
    { updated.1 with ageing := mccQryPorts env qry updated.1.ports.zipIdx updated.1.ageing }
  else updated.1

/-- `mcc_grp_aging_timeout_handler`; it does not look at whether the group is static. -/
def mccGrpAgingTimeoutHandler (s : MccState D) (key : MccGrpKey) : MccState D :=
  let s := (mccIoctl drv s (.portDelete key.port key.fid (mccIpv4 key.da))).1
  { s with
    ports := s.ports.modify key.port (mccPortAging · key.fid key.da)
    ageing := s.ageing.filter (· ≠ key) }

/-! ## Runs -/

/-- What happens to the multicast core. -/
inductive MccCoreEvent
  /-- A record of a report or of a leave. -/
  | record (env : MccEnv) (pkt : MccPktRec)
  /-- `mcc_fwd_rep_update`, for the destination of a report. -/
  | repUpdate (port : Nat) (fid : BitVec 8) (da : MccIpAddr)
  | query (env : MccQryEnv) (qry : MccQry)
  /-- An ageing timer expires. -/
  | ageing (key : MccGrpKey)
  | flowControl (env : MccFlowEnv) (port : Nat) (add isStatic : Bool) (flow : MccMcFlow)
  | flowRangeDelete (env : MccFlowEnv) (port : Nat) (isStatic : Bool) (range : MccMcFlowRange)
  | portReset (port : Nat)

/-- One event; a timer expires if it runs. -/
def mccCoreStep (s : MccState D) : MccCoreEvent → Option (MccState D)
  | .record env pkt =>
      match mccRecGet pkt with
      | none => some s
      | some rec => some (mccRecord drv env s rec)
  | .repUpdate port fid da => some (mccIoctl drv s (.portAdd port fid (mccIpv4 da))).1
  | .query env qry => some (mccQryProcess drv env qry s)
  | .ageing key => if key ∈ s.ageing then some (mccGrpAgingTimeoutHandler drv s key) else none
  | .flowControl env port add isStatic flow =>
      some (mccPortMcFlowControl drv env s port add isStatic flow).1
  | .flowRangeDelete env port isStatic range =>
      some (mccPortMcFlowRangeDelete drv env s port isStatic range)
  | .portReset port => some (mccPortReset drv s port)

end Driver

/-! ## What a change touches -/

section Frame

variable {D : Type*} {drv : MccDriver D}

@[simp]
theorem ports_mccIoctl (s : MccState D) (call : MccIoctl) :
    (mccIoctl drv s call).1.ports = s.ports := by
  unfold mccIoctl
  split <;> rfl

theorem ports_mccApply (bridgeInfo : Nat → Option (BitVec 16)) (s : MccState D) (op : MccFlowOp) :
    (mccApply drv bridgeInfo s op).1.ports =
      s.ports.modify op.port fun port => { port with flwList := mccFlwApply op port.flwList } := by
  simp only [mccApply]
  split
  · rfl
  · exact ports_mccIoctl _ _

end Frame

end FalconGpon.Mcc
