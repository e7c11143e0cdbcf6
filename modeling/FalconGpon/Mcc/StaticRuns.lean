/-
# Static flows in runs

A static flow is kept in every run (`staticFlow_persists`) in which no ageing timer of its group
expires, for queries start that timer as they do for dynamic groups; no change takes over its
client; and no other group shares its entry in the device.
-/

import FalconGpon.Mcc.StaticFlow

namespace FalconGpon.Mcc

open FalconGpon.Lib

variable {D : Type*} {drv : MccDriver D}

/-! ## When an event leaves a flow alone -/

/-- A change that leaves a flow alone: it spares its client, and if it refreshes the entry of
the device that has its group, it is for that group and on the bridge of its port. -/
structure MccFlowOp.Guard (bridgeInfo : Nat → Option (BitVec 16)) (s : MccState D)
    (op : MccFlowOp) (flow : StaticFlow) : Prop where
  entry : op.fid = flow.key.fid → mccIpv4 op.da = mccIpv4 flow.key.da →
    (bridgeInfo op.port).isSome = true →
      op.da = flow.key.da ∧ bridgeInfo flow.key.port = bridgeInfo op.port
  client : op.key = flow.key → op.ca = flow.ca →
    ∀ clt ∈ s.clt flow.key flow.ca, op.Spares clt flow.sa

/-- The changes of flow control that are made leave a flow alone. -/
def LoopGuard (drv : MccDriver D) (bridgeInfo : Nat → Option (BitVec 16)) (flow : StaticFlow) :
    MccState D → List MccFlowOp → Prop
  | _, [] => True
  | s, op :: rest =>
      let applied := (mccApply drv bridgeInfo s op).1
      op.Guard bridgeInfo s flow ∧
        (applied.clt op.key op.ca ≠ none → LoopGuard drv bridgeInfo flow applied rest)

/-- The deletions of a range leave a flow alone. -/
def RangeGuard (drv : MccDriver D) (env : MccFlowEnv) (port : Nat) (isStatic : Bool)
    (flow : StaticFlow) : MccState D → List MccMcFlow → Prop
  | _, [] => True
  | s, other :: rest =>
      LoopGuard drv env.bridgeInfo flow s (s.flowOps env port false isStatic other) ∧
        RangeGuard drv env port isStatic flow
          (mccPortMcFlowControl drv env s port false isStatic other).1 rest

namespace MccCoreEvent

/-- The event leaves a flow alone. -/
def Guard (drv : MccDriver D) (flow : StaticFlow) (s : MccState D) : MccCoreEvent → Prop
  | .record env pkt => ∀ rec ∈ mccRecGet pkt, ∀ port ∈ s.ports[rec.port]?,
      (mccRecCheck env port rec).accepted = true → env.addrTable = .accepted →
        (mccRecCheck env port rec).record.flowOp.Guard env.bridgeInfo s flow
  | .repUpdate _ _ _ => True
  | .query _ _ => True
  | .ageing key =>
      ¬ (key.port = flow.key.port ∧ key.fid = flow.key.fid ∧
        mccIpv4 key.da = mccIpv4 flow.key.da)
  | .flowControl env port add isStatic other =>
      LoopGuard drv env.bridgeInfo flow s (s.flowOps env port add isStatic other)
  | .flowRangeDelete env port isStatic range =>
      RangeGuard drv env port isStatic flow s (s.rangeFlows env port range)
  | .portReset _ => True

/-- The event deletes a flow: `mcc_port_static_flow_delete` of it, of its client or for all
clients, `mcc_port_static_flow_range_delete` of a range with it, or `mcc_port_reset`. -/
def Deletes (flow : StaticFlow) : MccCoreEvent → Prop
  | .flowControl env port false true other =>
      port = flow.key.port ∧ env.flowFid other.svid = some flow.key.fid ∧
        mccIpAddrGet other.da = flow.key.da ∧ mccIpAddrGet other.ca ∈ [flow.ca, mccIpAny] ∧
        mccIpAddrGet other.sa ∈ [flow.sa, mccIpAny]
  | .flowRangeDelete env port true range =>
      port = flow.key.port ∧ env.flowFid range.svid = some flow.key.fid ∧
        range.Has flow.key.da ∧ mccIpAddrGet range.ca ∈ [flow.ca, mccIpAny] ∧
        mccIpAddrGet range.sa ∈ [flow.sa, mccIpAny]
  | .portReset port => port = flow.key.port
  | _ => False

end MccCoreEvent

/-! ## Forwarding -/

section Forwarding

variable {bridgeInfo : Nat → Option (BitVec 16)} {ports : List MccPort}

/-- The port map has the ports of the groups. -/
theorem getLsbD_portMapOf {grps : List (MccGrpEntry × Nat)} {grp : MccGrpEntry} {index : Nat}
    (hmem : (grp, index) ∈ grps) (hindex : index < 8) : (portMapOf grps).getLsbD index = true := by
  have hfold : ∀ portMap : BitVec 8,
      portMap.getLsbD index = true ∨ (grp, index) ∈ grps →
        (grps.foldl (fun portMap grp => portMap ||| (1#8 <<< grp.2)) portMap).getLsbD index =
          true := by
    clear hmem
    induction grps with
    | nil => exact fun _ h => h.resolve_right List.not_mem_nil
    | cons other rest ih =>
        intro portMap h
        apply ih
        rcases h with hold | hmem
        · exact .inl (by simp [hold])
        · rcases List.mem_cons.mp hmem with rfl | hrest
          · exact .inl (by simp [hindex])
          · exact .inr hrest
  exact hfold 0 (.inr hmem)

/-- A group that is on a port of the bridge is forwarded there. -/
theorem mccFwdRefresh_of_grp {port : MccPort} {grp : MccGrpEntry} {fid : BitVec 8}
    {da : MccIpAddr} {index lanPortIdx : Nat} {bridgeId : BitVec 16}
    (hlan : bridgeInfo lanPortIdx = some bridgeId) (hbridge : bridgeInfo index = some bridgeId)
    (hport : ports[index]? = some port) (hgrp : port.grp fid da = some grp) (hindex : index < 8) :
    ∃ fmode portMap list,
      mccFwdRefresh bridgeInfo ports lanPortIdx fid da =
          some (.fwdUpdate fid fmode bridgeId portMap da list) ∧
        portMap.getLsbD index = true := by
  have hmem : (grp, index) ∈ mccFwdGrps bridgeInfo bridgeId ports fid da := by
    refine List.mem_filterMap.mpr ⟨(port, index), ?_, ?_⟩
    · exact List.mem_zipIdx_iff_getElem?.mpr hport
    · simp [hbridge, hgrp]
  have hne : mccFwdGrps bridgeInfo bridgeId ports fid da ≠ [] := List.ne_nil_of_mem hmem
  simp only [mccFwdRefresh, hlan, Option.map_some, fwdMode_eq, if_neg hne]
  exact ⟨_, _, _, rfl, getLsbD_portMapOf hmem hindex⟩

end Forwarding

/-! ## Changes -/

/-- As many ports as there are; clients that include sources name some. -/
structure MccState.Sound (s : MccState D) : Prop where
  length : s.ports.length = mccMaxPorts
  solid : ∀ port ∈ s.ports, port.AllGrps MccGrpEntry.Solid

section Apply

variable {bridgeInfo : Nat → Option (BitVec 16)} {s : MccState D} {op : MccFlowOp}
  {key : MccGrpKey} {grp after : MccGrpEntry}

theorem grp_mccApply (hport : op.port < s.ports.length)
    (hafter : mccGrpRefresh (op.changed (s.grp op.key)) = some after) (hda : after.da = op.da) :
    (mccApply drv bridgeInfo s op).1.grp op.key = some after := by
  have hget : s.ports[op.port]? = some s.ports[op.port] := List.getElem?_eq_getElem hport
  have hgrp : s.grp op.key = s.ports[op.port].grp op.fid op.da := by
    rw [MccState.grp, show op.key.port = op.port from rfl, hget]
    rfl
  rw [hgrp] at hafter
  rw [MccState.grp, ports_mccApply, show op.key.port = op.port from rfl, List.getElem?_modify_eq,
    hget]
  exact grp_mccFlwApply hafter hda

theorem grp_mccApply_of_ne (hne : key ≠ op.key) (hgrp : s.grp key = some grp) :
    (mccApply drv bridgeInfo s op).1.grp key = some grp := by
  obtain ⟨port, hport, hfind⟩ := Option.bind_eq_some_iff.mp hgrp
  rw [MccState.grp, ports_mccApply, List.getElem?_modify, hport]
  by_cases hindex : op.port = key.port
  · have hkey : (key.fid, key.da) ≠ (op.fid, op.da) := by
      intro hsame
      obtain ⟨hfid, hda⟩ := Prod.mk.inj hsame
      apply hne
      rw [MccFlowOp.key, hindex, ← hfid, ← hda]
    simp only [hindex, if_true]
    exact grp_mccFlwApply_of_ne hkey hfind
  · simp only [hindex, if_false]
    exact hfind

theorem MccState.Sound.solid_modify (hs : s.Sound) {index : Nat} {change : MccPort → MccPort}
    (hchange : ∀ {port : MccPort}, port.AllGrps MccGrpEntry.Solid →
      (change port).AllGrps MccGrpEntry.Solid) :
    ∀ port ∈ s.ports.modify index change, port.AllGrps MccGrpEntry.Solid := by
  intro port hport
  obtain ⟨place, hplace⟩ := List.getElem?_of_mem hport
  rw [List.getElem?_modify] at hplace
  obtain ⟨before, hbefore, rfl⟩ := Option.map_eq_some_iff.mp hplace
  have hsolid := hs.solid before (List.mem_of_getElem? hbefore)
  split
  · exact hchange hsolid
  · exact hsolid

theorem MccState.Sound.apply (hs : s.Sound) : (mccApply drv bridgeInfo s op).1.Sound := by
  refine ⟨?_, ?_⟩
  · rw [ports_mccApply, List.length_modify]
    exact hs.length
  · rw [ports_mccApply]
    exact hs.solid_modify solid_mccFlwApply

theorem MccState.Sound.solidGrp (hs : s.Sound) (hgrp : s.grp key = some grp) : grp.Solid := by
  obtain ⟨port, hport, hfind⟩ := Option.bind_eq_some_iff.mp hgrp
  obtain ⟨flw, hflw, hgrp⟩ := Option.bind_eq_some_iff.mp hfind
  exact hs.solid port (List.mem_of_getElem? hport) flw (mem_findKey hflw) grp (mem_findKey hgrp)

/-- A group stays with a client. -/
theorem grp_mccApply_of_clt (hs : s.Sound) (hport : op.port < s.ports.length) {ca : MccIpAddr}
    {clt : MccCltEntry} (hclt : clt ∈ mccCltFind (op.changed (s.grp op.key)).cltList ca) :
    ∃ grp ∈ (mccApply drv bridgeInfo s op).1.grp op.key,
      grp.isStatic = (op.changed (s.grp op.key)).isStatic ∧ clt ∈ mccCltFind grp.cltList ca := by
  have hne : (op.changed (s.grp op.key)).cltList ≠ [] := by
    intro hempty
    rw [hempty] at hclt
    cases hclt
  have hafter := mccGrpRefresh_of_solid
    (Solid.changed op fun grp hgrp => hs.solidGrp hgrp) hne
  have hda : (mccGrpStateUpdate (op.changed (s.grp op.key))).da = op.da := by
    cases hgrp : s.grp op.key with
    | none => rfl
    | some grp =>
        obtain ⟨port, _, hfind⟩ := Option.bind_eq_some_iff.mp hgrp
        obtain ⟨flw, _, hgrp⟩ := Option.bind_eq_some_iff.mp hfind
        have hfound : grp.da = op.da := key_findKey (k := op.da) hgrp
        exact hfound
  exact ⟨_, grp_mccApply hport hafter hda, rfl, hclt⟩

theorem ioctl_mccFwdRefresh {ports : List MccPort} {lanPortIdx : Nat} {fid : BitVec 8}
    {da : MccIpAddr} {call : MccDevCall}
    (hcall : mccFwdRefresh bridgeInfo ports lanPortIdx fid da = some call) :
    (∃ bridgeId portMap, call.ioctl = .portModify bridgeId portMap fid (mccIpv4 da)) ∨
      call.ioctl = .portDelete lanPortIdx fid (mccIpv4 da) := by
  obtain ⟨bridgeId, _, rfl⟩ := Option.map_eq_some_iff.mp hcall
  simp only
  split
  · exact .inl ⟨_, _, rfl⟩
  · exact .inr rfl

/-- The device after the forwarding of a change. -/
theorem forwards_mccApply (hdrv : drv.Documented) {flow : StaticFlow}
    (hport : flow.key.port < mccMaxPorts) (hguard : op.Guard bridgeInfo s flow)
    (hgrp : ∃ grp, (mccApply drv bridgeInfo s op).1.grp flow.key = some grp)
    (hforwards : drv.Forwards s.dev flow.key.port flow.key.fid (mccIpv4 flow.key.da)) :
    drv.Forwards (mccApply drv bridgeInfo s op).1.dev flow.key.port flow.key.fid
      (mccIpv4 flow.key.da) := by
  obtain ⟨grp, hgrp⟩ := hgrp
  rw [MccState.grp, ports_mccApply] at hgrp
  simp only [mccApply]
  generalize (s.ports.modify op.port fun port =>
    { port with flwList := mccFlwApply op port.flwList }) = ports at hgrp ⊢
  cases hcall : mccFwdRefresh bridgeInfo ports op.port op.fid op.da with
  | none => exact hforwards
  | some call =>
      simp only [mccIoctl]
      cases hioctl : drv.ioctl s.dev call.ioctl with
      | none => exact hforwards
      | some dev =>
          by_cases hentry : (flow.key.fid, mccIpv4 flow.key.da) = (op.fid, mccIpv4 op.da)
          · -- the entry of the group: the port map has the port
            obtain ⟨hfid, hip⟩ := Prod.mk.inj hentry
            obtain ⟨bridgeId, hlan, _⟩ := Option.map_eq_some_iff.mp hcall
            obtain ⟨hda, hbridge⟩ := hguard.entry hfid.symm hip.symm (by rw [hlan]; rfl)
            obtain ⟨port, hget, hfind⟩ := Option.bind_eq_some_iff.mp hgrp
            rw [hfid, ← hda] at hfind
            obtain ⟨fmode, portMap, list, hrefresh, hmap⟩ := mccFwdRefresh_of_grp hlan
              (hbridge.trans hlan) hget hfind (lt_trans hport (by decide))
            rw [hcall] at hrefresh
            cases hrefresh
            rw [hfid, ← hda]
            exact hdrv.modify hioctl hmap
          · rcases ioctl_mccFwdRefresh hcall with ⟨bridgeId, portMap, hmodify⟩ | hdelete
            · rw [hmodify] at hioctl
              exact hdrv.modify_other hioctl hentry hforwards
            · rw [hdelete] at hioctl
              refine hdrv.delete_other hioctl (fun hsame => hentry ?_) hforwards
              exact (Prod.mk.inj hsame).2

/-- A change that the driver has carried out forwards its group on its port. -/
theorem forwards_of_mccApply (hdrv : drv.Documented) (hport : op.port < mccMaxPorts)
    (hgrp : (mccApply drv bridgeInfo s op).1.grp op.key = some grp)
    (hok : (mccApply drv bridgeInfo s op).2 = true) :
    drv.Forwards (mccApply drv bridgeInfo s op).1.dev op.port op.fid (mccIpv4 op.da) := by
  rw [MccState.grp, ports_mccApply] at hgrp
  simp only [mccApply] at hok ⊢
  generalize (s.ports.modify op.port fun port =>
    { port with flwList := mccFlwApply op port.flwList }) = ports at hgrp hok ⊢
  obtain ⟨port, hget, hfind⟩ := Option.bind_eq_some_iff.mp hgrp
  cases hcall : mccFwdRefresh bridgeInfo ports op.port op.fid op.da with
  | none =>
      rw [hcall] at hok
      cases hok
  | some call =>
      obtain ⟨bridgeId, hlan, _⟩ := Option.map_eq_some_iff.mp hcall
      have hgroup : port.grp op.fid op.da = some grp := hfind
      obtain ⟨fmode, portMap, list, hrefresh, hmap⟩ := mccFwdRefresh_of_grp hlan hlan hget hgroup
        (lt_trans hport (by decide))
      rw [hcall] at hrefresh hok
      cases hrefresh
      simp only [mccIoctl, MccDevCall.ioctl] at hok ⊢
      cases hioctl : drv.ioctl s.dev (.portModify bridgeId portMap op.fid (mccIpv4 op.da)) with
      | none =>
          rw [hioctl] at hok
          cases hok
      | some dev => exact hdrv.modify hioctl hmap

/-- A guarded change keeps a flow. -/
theorem MccState.Keeps.apply (hdrv : drv.Documented) {flow : StaticFlow} (hs : s.Sound)
    (hkeeps : s.Keeps drv flow) (hguard : op.Guard bridgeInfo s flow) :
    (mccApply drv bridgeInfo s op).1.Keeps drv flow := by
  obtain ⟨grp, hgrp, hstatic, clt, hclt, hcltStatic, hreceives⟩ := hkeeps.listed
  have hport : flow.key.port < s.ports.length := by
    obtain ⟨port, hget, _⟩ := Option.bind_eq_some_iff.mp hgrp
    exact (List.getElem?_eq_some_iff.mp hget).1
  have hlisted : ∃ grp ∈ (mccApply drv bridgeInfo s op).1.grp flow.key, grp.isStatic = true ∧
      ∃ clt ∈ mccCltFind grp.cltList flow.ca, clt.isStatic = true ∧ clt.Receives flow.sa := by
    by_cases hkey : op.key = flow.key
    · rw [← hkey] at hgrp ⊢
      have hchanged : ∃ clt ∈ mccCltFind (op.changed (s.grp op.key)).cltList flow.ca,
          clt.isStatic = true ∧ clt.Receives flow.sa := by
        rw [Option.mem_def.mp hgrp]
        by_cases hca : op.ca = flow.ca
        · have hcltOf : op.cltOf (some grp) = clt := by
            rw [MccFlowOp.cltOf, Option.bind_some, hca, Option.mem_def.mp hclt, Option.getD_some]
          have hfound : clt ∈ s.clt flow.key flow.ca := by
            rw [← hkey, MccState.clt, Option.mem_def.mp hgrp]
            exact hclt
          obtain ⟨after, hafter, hsame, hreceives⟩ :=
            changed_clt (hcltOf ▸ hguard.client hkey hca clt hfound)
          rw [hcltOf] at hsame
          exact ⟨after, hca ▸ hafter, hsame.trans hcltStatic, hreceives⟩
        · exact ⟨clt, changed_clt_of_ne (Ne.symm hca) hclt, hcltStatic, hreceives⟩
      obtain ⟨after, hafter, hsame, hreceives⟩ := hchanged
      have hopPort : op.port < s.ports.length := by
        rw [show op.port = flow.key.port from congrArg MccGrpKey.port hkey]
        exact hport
      have hkept : ∃ grp ∈ (mccApply drv bridgeInfo s op).1.grp op.key,
          grp.isStatic = (op.changed (s.grp op.key)).isStatic ∧
            after ∈ mccCltFind grp.cltList flow.ca :=
        grp_mccApply_of_clt hs hopPort hafter
      obtain ⟨grp', hgrp', hstatic', hclt'⟩ := hkept
      refine ⟨grp', hgrp', hstatic'.trans ?_, after, hclt', hsame, hreceives⟩
      rw [Option.mem_def.mp hgrp]
      exact hstatic
    · exact ⟨grp, grp_mccApply_of_ne (Ne.symm hkey) hgrp, hstatic, clt, hclt, hcltStatic, hreceives⟩
  have hgrpAfter : ∃ grp, (mccApply drv bridgeInfo s op).1.grp flow.key = some grp :=
    hlisted.imp fun _ hafter => hafter.1
  exact ⟨hlisted, forwards_mccApply hdrv (hs.length ▸ hport) hguard hgrpAfter hkeeps.forwarded⟩

end Apply

/-! ## Events -/

section Events

variable {s after : MccState D} {flow : StaticFlow} {key : MccGrpKey}

theorem MccState.Keeps.of_same (hkeeps : s.Keeps drv flow) (hgrp : after.grp flow.key = s.grp flow.key)
    (hforwards : drv.Forwards s.dev flow.key.port flow.key.fid (mccIpv4 flow.key.da) →
      drv.Forwards after.dev flow.key.port flow.key.fid (mccIpv4 flow.key.da)) :
    after.Keeps drv flow := by
  refine ⟨?_, hforwards hkeeps.forwarded⟩
  rw [hgrp]
  exact hkeeps.listed

theorem MccState.Sound.of_ports (hs : s.Sound) (hports : after.ports = s.ports) : after.Sound := by
  refine ⟨?_, ?_⟩
  · rw [hports]
    exact hs.length
  · rw [hports]
    exact hs.solid

theorem grp_of_ports (hports : after.ports = s.ports) (key : MccGrpKey) :
    after.grp key = s.grp key := by
  rw [MccState.grp, MccState.grp, hports]

theorem grp_set {index : Nat} {port other : MccPort} (hport : s.ports[index]? = some port)
    (hother : other.flwList = port.flwList) (key : MccGrpKey) :
    ({ s with ports := s.ports.set index other } : MccState D).grp key = s.grp key := by
  have hlt : index < s.ports.length := (List.getElem?_eq_some_iff.mp hport).1
  rw [MccState.grp, MccState.grp]
  by_cases hindex : index = key.port
  · subst hindex
    simp only [List.getElem?_set_self hlt, hport, Option.bind_some, MccPort.grp, hother]
  · simp only [List.getElem?_set_ne hindex]

theorem MccState.Sound.set (hs : s.Sound) {index : Nat} {other : MccPort}
    (hother : other.AllGrps MccGrpEntry.Solid) :
    ({ s with ports := s.ports.set index other } : MccState D).Sound := by
  refine ⟨List.length_set.trans hs.length, ?_⟩
  intro port hport
  rcases List.mem_or_eq_of_mem_set hport with hold | rfl
  · exact hs.solid port hold
  · exact hother

/-- A call of the driver that adds, or takes another group or port. -/
def MccIoctl.Spares (flow : StaticFlow) : MccIoctl → Prop
  | .portModify _ _ fid ip => (flow.key.fid, mccIpv4 flow.key.da) ≠ (fid, ip)
  | .portAdd _ _ _ => True
  | .portDelete lanPort fid ip =>
      (flow.key.port, flow.key.fid, mccIpv4 flow.key.da) ≠ (lanPort, fid, ip)

theorem MccState.Keeps.ioctl (hdrv : drv.Documented) (hkeeps : s.Keeps drv flow) {call : MccIoctl}
    (hspares : call.Spares flow) : (mccIoctl drv s call).1.Keeps drv flow := by
  refine hkeeps.of_same (grp_of_ports (ports_mccIoctl s call) flow.key) fun hforwards => ?_
  unfold mccIoctl
  cases hioctl : drv.ioctl s.dev call with
  | none => exact hforwards
  | some dev =>
      cases call with
      | portModify bridgeIndex portMap fid ip => exact hdrv.modify_other hioctl hspares hforwards
      | portAdd lanPort fid ip => exact hdrv.add hioctl hforwards
      | portDelete lanPort fid ip => exact hdrv.delete_other hioctl hspares hforwards

theorem MccState.Keeps.ioctls (hdrv : drv.Documented) {calls : List MccIoctl}
    (hkeeps : s.Keeps drv flow) (hspares : ∀ call ∈ calls, call.Spares flow) :
    (calls.foldl (fun s call => (mccIoctl drv s call).1) s).Keeps drv flow := by
  induction calls generalizing s with
  | nil => exact hkeeps
  | cons call rest ih =>
      obtain ⟨hcall, hrest⟩ := List.forall_mem_cons.mp hspares
      exact ih (hkeeps.ioctl hdrv hcall) hrest

theorem ports_ioctls (calls : List MccIoctl) (s : MccState D) :
    (calls.foldl (fun s call => (mccIoctl drv s call).1) s).ports = s.ports := by
  induction calls generalizing s with
  | nil => rfl
  | cons call rest ih => exact (ih _).trans (ports_mccIoctl s call)

/-! ### Records -/

theorem MccState.Sound.recCheck (hs : s.Sound) (env : MccEnv) {rec : MccRec} {port : MccPort}
    (hport : s.ports[rec.port]? = some port) :
    ({ s with ports := s.ports.set rec.port (mccRecCheck env port rec).port } :
      MccState D).Sound := by
  refine hs.set fun flw hflw => ?_
  rw [mccRecCheck_flwList] at hflw
  exact hs.solid port (List.mem_of_getElem? hport) flw hflw

theorem MccState.Sound.record (hs : s.Sound) (env : MccEnv) (rec : MccRec) :
    (mccRecord drv env s rec).Sound := by
  unfold mccRecord
  cases hport : s.ports[rec.port]? with
  | none => exact hs
  | some port =>
      have hset := hs.recCheck env hport
      simp only
      split
      · exact hset.apply
      · exact hset

theorem MccState.Keeps.record (hdrv : drv.Documented) (hs : s.Sound) (hkeeps : s.Keeps drv flow)
    {env : MccEnv} {rec : MccRec}
    (hguard : ∀ port ∈ s.ports[rec.port]?, (mccRecCheck env port rec).accepted = true →
      env.addrTable = .accepted →
        (mccRecCheck env port rec).record.flowOp.Guard env.bridgeInfo s flow) :
    (mccRecord drv env s rec).Keeps drv flow := by
  unfold mccRecord
  cases hport : s.ports[rec.port]? with
  | none => exact hkeeps
  | some port =>
      have hgrp := grp_set hport (mccRecCheck_flwList env port rec)
      have hset := hs.recCheck env hport
      have hkept := hkeeps.of_same (hgrp flow.key) id
      simp only
      split
      · rename_i haccepted
        obtain ⟨hchecked, htable⟩ := Bool.and_eq_true_iff.mp haccepted
        have hop := hguard port hport hchecked (of_decide_eq_true htable)
        refine hkept.apply hdrv hset ⟨hop.entry, fun hkey hca clt hclt => ?_⟩
        apply hop.client hkey hca
        rw [MccState.clt, ← hgrp flow.key]
        exact hclt
      · exact hkept

/-! ### Flow control -/

theorem MccState.Sound.loop {bridgeInfo : Nat → Option (BitVec 16)} {ops : List MccFlowOp}
    (hs : s.Sound) : (mccFlowLoop drv bridgeInfo s ops).1.Sound := by
  induction ops generalizing s with
  | nil => exact hs
  | cons op rest ih =>
      rw [mccFlowLoop]
      split
      · exact hs.apply
      · exact ih hs.apply

theorem MccState.Keeps.loop (hdrv : drv.Documented) {bridgeInfo : Nat → Option (BitVec 16)}
    {ops : List MccFlowOp} (hs : s.Sound) (hkeeps : s.Keeps drv flow)
    (hguard : LoopGuard drv bridgeInfo flow s ops) :
    (mccFlowLoop drv bridgeInfo s ops).1.Keeps drv flow := by
  induction ops generalizing s with
  | nil => exact hkeeps
  | cons op rest ih =>
      obtain ⟨hop, hrest⟩ := hguard
      have happlied := hkeeps.apply hdrv hs hop
      rw [mccFlowLoop]
      split
      · exact happlied
      · rename_i hgoes
        exact ih hs.apply happlied (hrest (not_or.mp hgoes).2)

theorem MccState.Sound.range {env : MccFlowEnv} {port : Nat} {isStatic : Bool}
    {flows : List MccMcFlow} (hs : s.Sound) :
    (flows.foldl (fun s other => (mccPortMcFlowControl drv env s port false isStatic other).1)
      s).Sound := by
  induction flows generalizing s with
  | nil => exact hs
  | cons other rest ih => exact ih hs.loop

theorem MccState.Keeps.range (hdrv : drv.Documented) {env : MccFlowEnv} {port : Nat}
    {isStatic : Bool} {flows : List MccMcFlow} (hs : s.Sound) (hkeeps : s.Keeps drv flow)
    (hguard : RangeGuard drv env port isStatic flow s flows) :
    (flows.foldl (fun s other => (mccPortMcFlowControl drv env s port false isStatic other).1)
      s).Keeps drv flow := by
  induction flows generalizing s with
  | nil => exact hkeeps
  | cons other rest ih => exact ih hs.loop (hkeeps.loop hdrv hs hguard.1) hguard.2

/-! ### Queries and ageing -/

theorem MccState.Keeps.fwdQryUpdate (hdrv : drv.Documented) {env : MccQryEnv} {qry : MccQry}
    {ports : List Nat} (hkeeps : s.Keeps drv flow) :
    (mccFwdQryUpdate drv env qry ports s).1.Keeps drv flow := by
  induction ports generalizing s with
  | nil => exact hkeeps
  | cons port rest ih =>
      rw [mccFwdQryUpdate]
      cases env.fid qry.svid with
      | none => exact hkeeps
      | some fid =>
          have hadded : (mccIoctl drv s (.portAdd port fid (mccIpv4 qry.da))).1.Keeps drv flow :=
            hkeeps.ioctl hdrv trivial
          simp only
          split
          · exact ih hadded
          · exact hadded

theorem ports_mccFwdQryUpdate (drv : MccDriver D) (env : MccQryEnv) (qry : MccQry) (ports : List Nat)
    (s : MccState D) : (mccFwdQryUpdate drv env qry ports s).1.ports = s.ports := by
  induction ports generalizing s with
  | nil => rfl
  | cons port rest ih =>
      rw [mccFwdQryUpdate]
      cases env.fid qry.svid with
      | none => rfl
      | some fid =>
          simp only
          split
          · exact (ih _).trans (ports_mccIoctl s _)
          · exact ports_mccIoctl s _

theorem ports_mccQryProcess (env : MccQryEnv) (qry : MccQry) (s : MccState D) :
    (mccQryProcess drv env qry s).ports = s.ports := by
  have hupdated := ports_mccFwdQryUpdate drv env qry (List.range s.ports.length) s
  simp only [mccQryProcess]
  by_cases hany : qry.ga = mccIpAny
  · simp only [hany, if_true]
    split <;> exact hupdated
  · simp only [hany, if_false, if_true]

theorem MccState.Keeps.qryProcess (hdrv : drv.Documented) {env : MccQryEnv} {qry : MccQry}
    (hkeeps : s.Keeps drv flow) : (mccQryProcess drv env qry s).Keeps drv flow := by
  have hupdated : (mccFwdQryUpdate drv env qry (List.range s.ports.length) s).1.Keeps drv flow :=
    hkeeps.fwdQryUpdate hdrv
  refine hkeeps.of_same (grp_of_ports (ports_mccQryProcess env qry s) flow.key) fun hforwards => ?_
  simp only [mccQryProcess]
  by_cases hany : qry.ga = mccIpAny
  · simp only [hany, if_true]
    split <;> exact hupdated.forwarded
  · simp only [hany, if_false, if_true]
    exact hforwards

/-- The other groups of a port, when one is too old. -/
theorem grp_mccPortAging {port : MccPort} {fid other : BitVec 8} {da old : MccIpAddr}
    (hne : (fid, da) ≠ (other, old)) : (mccPortAging port other old).grp fid da = port.grp fid da := by
  have hflw : mccFlwFind (mccPortAging port other old).flwList fid =
      (mccFlwFind port.flwList fid).map fun flw =>
        if flw.id = other then { flw with grpList := flw.grpList.eraseP (·.da = old) } else flw := by
    rw [mccPortAging, mccFlwFind, mccFlwFind, findKey, findKey, List.find?_map]
    congr 2
    ext flw
    simp only [Function.comp]
    split <;> rfl
  rw [MccPort.grp, MccPort.grp, hflw]
  cases hfind : mccFlwFind port.flwList fid with
  | none => rfl
  | some flw =>
      rw [Option.map_some, Option.bind_some, Option.bind_some]
      split
      · rename_i hid
        have hfid : flw.id = fid := key_findKey (k := fid) hfind
        have hda : da ≠ old := fun hda => hne (by rw [← hfid, hid, hda])
        have hsame : findKey MccGrpEntry.da da (flw.grpList.eraseP (·.da = old)) =
            findKey MccGrpEntry.da da flw.grpList := findKey_eraseP_of_ne hda
        exact hsame
      · rfl

theorem MccState.Sound.ageing (hs : s.Sound) (key : MccGrpKey) :
    (mccGrpAgingTimeoutHandler drv s key).Sound := by
  have hports : (mccIoctl drv s (.portDelete key.port key.fid (mccIpv4 key.da))).1.ports =
      s.ports := ports_mccIoctl s _
  refine ⟨?_, ?_⟩
  · simp only [mccGrpAgingTimeoutHandler, hports, List.length_modify]
    exact hs.length
  · simp only [mccGrpAgingTimeoutHandler, hports]
    refine hs.solid_modify fun {port} hsolid flw hflw grp hgrp => ?_
    obtain ⟨old, hold, rfl⟩ := List.mem_map.mp hflw
    split at hgrp
    · exact hsolid old hold grp (List.mem_of_mem_eraseP hgrp)
    · exact hsolid old hold grp hgrp

theorem MccState.Keeps.ageing (hdrv : drv.Documented) (hkeeps : s.Keeps drv flow)
    (hguard : ¬ (key.port = flow.key.port ∧ key.fid = flow.key.fid ∧
      mccIpv4 key.da = mccIpv4 flow.key.da)) :
    (mccGrpAgingTimeoutHandler drv s key).Keeps drv flow := by
  have hother : (MccIoctl.portDelete key.port key.fid (mccIpv4 key.da)).Spares flow := by
    intro hsame
    obtain ⟨hport, hrest⟩ := Prod.mk.inj hsame
    obtain ⟨hfid, hip⟩ := Prod.mk.inj hrest
    exact hguard ⟨hport.symm, hfid.symm, hip.symm⟩
  have hcalled := hkeeps.ioctl hdrv hother
  refine hkeeps.of_same ?_ fun _ => hcalled.forwarded
  simp only [MccState.grp, mccGrpAgingTimeoutHandler, ports_mccIoctl, List.getElem?_modify]
  cases hget : s.ports[flow.key.port]? with
  | none => rfl
  | some port =>
      simp only [Option.bind_some]
      split
      · rename_i hport
        refine grp_mccPortAging fun hsame => ?_
        obtain ⟨hfid, hda⟩ := Prod.mk.inj hsame
        exact hguard ⟨hport, hfid.symm, by rw [hda]⟩
      · rfl

/-! ### Reset -/

theorem MccState.Sound.portReset (hs : s.Sound) (port : Nat) : (mccPortReset drv s port).Sound := by
  unfold mccPortReset
  cases hport : s.ports[port]? with
  | none => exact hs
  | some entry =>
      have hset : ({ s with ports := s.ports.set port mccPortClear } : MccState D).Sound :=
        hs.set MccPort.AllGrps.clear
      simp only [ports_ioctls]
      exact hset.of_ports rfl

/-- The reset of another port. -/
theorem MccState.Keeps.portReset (hdrv : drv.Documented) {port : Nat} (hkeeps : s.Keeps drv flow)
    (hother : port ≠ flow.key.port) : (mccPortReset drv s port).Keeps drv flow := by
  unfold mccPortReset
  cases hport : s.ports[port]? with
  | none => exact hkeeps
  | some entry =>
      have hcalled : ((entry.flwList.flatMap fun fe => fe.grpList.map fun ge =>
          MccIoctl.portDelete port fe.id (mccIpv4 ge.da)).foldl
            (fun s call => (mccIoctl drv s call).1) s).Keeps drv flow := by
        refine hkeeps.ioctls hdrv fun call hcall => ?_
        obtain ⟨fe, _, hmap⟩ := List.mem_flatMap.mp hcall
        obtain ⟨ge, _, rfl⟩ := List.mem_map.mp hmap
        exact fun hsame => hother (Prod.mk.inj hsame).1.symm
      refine hkeeps.of_same ?_ fun _ => hcalled.forwarded
      simp only [MccState.grp, ports_ioctls, List.getElem?_set_ne hother]

end Events

/-! ## Runs -/

section Runs

variable {s after : MccState D} {flow : StaticFlow}

theorem sound_mccInit (dev : D) : (mccInit dev).Sound := by
  refine ⟨List.length_replicate, fun port hport => ?_⟩
  rw [List.eq_of_mem_replicate hport]
  exact MccPort.AllGrps.clear

theorem MccState.Sound.step {event : MccCoreEvent} (hs : s.Sound)
    (hstep : mccCoreStep drv s event = some after) : after.Sound := by
  cases event with
  | record env pkt =>
      rw [mccCoreStep] at hstep
      cases hrec : mccRecGet pkt with
      | none =>
          rw [hrec] at hstep
          cases hstep
          exact hs
      | some rec =>
          rw [hrec] at hstep
          cases hstep
          exact hs.record env rec
  | repUpdate port fid da =>
      cases hstep
      exact hs.of_ports (ports_mccIoctl s _)
  | query env qry =>
      cases hstep
      exact hs.of_ports (ports_mccQryProcess env qry s)
  | ageing key =>
      obtain ⟨_, hafter⟩ := Option.ite_none_right_eq_some.mp hstep
      cases hafter
      exact hs.ageing key
  | flowControl env port add isStatic other =>
      cases hstep
      exact hs.loop
  | flowRangeDelete env port isStatic range =>
      cases hstep
      exact hs.range
  | portReset port =>
      cases hstep
      exact hs.portReset port

/-- An event that leaves a flow alone and does not delete it keeps it. -/
theorem MccState.Keeps.step (hdrv : drv.Documented) {event : MccCoreEvent} (hs : s.Sound)
    (hkeeps : s.Keeps drv flow) (hguard : event.Guard drv flow s) (hdeletes : ¬ event.Deletes flow)
    (hstep : mccCoreStep drv s event = some after) : after.Keeps drv flow := by
  cases event with
  | record env pkt =>
      rw [mccCoreStep] at hstep
      cases hrec : mccRecGet pkt with
      | none =>
          rw [hrec] at hstep
          cases hstep
          exact hkeeps
      | some rec =>
          rw [hrec] at hstep
          cases hstep
          exact hkeeps.record hdrv hs (hguard rec hrec)
  | repUpdate port fid da =>
      cases hstep
      exact hkeeps.ioctl hdrv trivial
  | query env qry =>
      cases hstep
      exact hkeeps.qryProcess hdrv
  | ageing key =>
      obtain ⟨_, hafter⟩ := Option.ite_none_right_eq_some.mp hstep
      cases hafter
      exact hkeeps.ageing hdrv hguard
  | flowControl env port add isStatic other =>
      cases hstep
      exact hkeeps.loop hdrv hs hguard
  | flowRangeDelete env port isStatic range =>
      cases hstep
      exact hkeeps.range hdrv hs hguard
  | portReset port =>
      cases hstep
      exact hkeeps.portReset hdrv hdeletes

/-! ### Creation -/

theorem MccMcFlow.spares_new (other : MccMcFlow) (port : Nat) (fid : BitVec 8) (ca : MccIpAddr) :
    (other.op port fid true true ca).Spares ⟨ca, .empty, .incl, none, true⟩
      (mccIpAddrGet other.sa) := by
  by_cases hany : mccIpAddrGet other.sa = mccIpAny
  · simp [MccFlowOp.Spares, MccFlowOp.Lists, MccFlowOp.setModes, MccMcFlow.op, hany,
      mccSrcListActionGet]
  · simp [MccFlowOp.Spares, MccFlowOp.Lists, MccFlowOp.setModes, MccMcFlow.op, hany,
      mccSrcListActionGet]

/-- A creation that is carried out is one change, of a static client in a static group. -/
theorem mccFlowOps_create (port : MccPort) (index : Nat) (fid : BitVec 8) (other : MccMcFlow) :
    mccFlowOps port index fid true true other = [] ∨
      mccFlowOps port index fid true true other =
          [other.op index fid true true (mccIpAddrGet other.ca)] ∧
        ∀ grp ∈ port.grp fid (mccIpAddrGet other.da), grp.isStatic = true ∧
          ∀ clt ∈ mccCltFind grp.cltList (mccIpAddrGet other.ca), clt.isStatic = true := by
  unfold mccFlowOps
  cases hgrp : port.grp fid (mccIpAddrGet other.da) with
  | none => exact .inr ⟨rfl, fun grp hgrp => nomatch hgrp⟩
  | some grp =>
      by_cases hstatic : grp.isStatic = true
      · cases hclt : mccCltFind grp.cltList (mccIpAddrGet other.ca) with
        | none =>
            refine .inr ⟨by simp [hstatic, hclt], fun found hfound => ?_⟩
            cases hfound
            rw [hclt]
            exact ⟨hstatic, fun clt hclt => nomatch hclt⟩
        | some clt =>
            by_cases hcltStatic : clt.isStatic = true
            · refine .inr ⟨by simp [hstatic, hclt, hcltStatic], fun found hfound => ?_⟩
              cases hfound
              refine ⟨hstatic, fun found hfound => ?_⟩
              rw [hclt] at hfound
              cases hfound
              exact hcltStatic
            · exact .inl (by simp [hstatic, hclt, hcltStatic])
      · exact .inl (by simp [hstatic])

/-- A flow that was created is there. -/
theorem MccState.Sound.keeps_create (hdrv : drv.Documented) (hs : s.Sound) {env : MccFlowEnv}
    {port : Nat} {other : MccMcFlow} {fid : BitVec 8} (hfid : env.flowFid other.svid = some fid)
    (hcreate : mccPortStaticFlowCreate drv env s port other = (after, true))
    (hspares : ∀ clt ∈ s.clt (other.staticFlow port fid).key (other.staticFlow port fid).ca,
      (other.op port fid true true (mccIpAddrGet other.ca)).Spares clt (mccIpAddrGet other.sa)) :
    after.Keeps drv (other.staticFlow port fid) := by
  let op := other.op port fid true true (mccIpAddrGet other.ca)
  have hops : ∃ entry, s.ports[port]? = some entry ∧
      s.flowOps env port true true other = mccFlowOps entry port fid true true other := by
    cases hport : s.ports[port]? with
    | none =>
        have hnone : s.flowOps env port true true other = [] := by
          rw [MccState.flowOps, hport]
        rw [mccPortStaticFlowCreate, mccPortMcFlowControl, hnone] at hcreate
        cases hcreate
    | some entry => exact ⟨entry, rfl, by rw [MccState.flowOps, hport, hfid]⟩
  obtain ⟨entry, hport, hops⟩ := hops
  have hlt : op.port < s.ports.length := (List.getElem?_eq_some_iff.mp hport).1
  have hgrp : s.grp op.key = entry.grp fid (mccIpAddrGet other.da) := by
    have hget : s.ports[op.key.port]? = some entry := hport
    rw [MccState.grp, hget]
    rfl
  rw [mccPortStaticFlowCreate, mccPortMcFlowControl, hops] at hcreate
  rcases mccFlowOps_create entry port fid other with hnone | ⟨hone, hstatic⟩
  · rw [hnone] at hcreate
    cases hcreate
  rw [hone, mccFlowLoop, if_pos (.inl rfl)] at hcreate
  -- the client is the one that is found, or a new one
  have hclt : op.Spares (op.cltOf (s.grp op.key)) (mccIpAddrGet other.sa) ∧
      (op.cltOf (s.grp op.key)).isStatic = true := by
    rw [MccFlowOp.cltOf]
    cases hfound : (s.grp op.key).bind fun grp => mccCltFind grp.cltList op.ca with
    | none => exact ⟨MccMcFlow.spares_new other port fid _, rfl⟩
    | some clt =>
        refine ⟨hspares clt hfound, ?_⟩
        obtain ⟨grp, hentry, hfind⟩ := Option.bind_eq_some_iff.mp hfound
        exact (hstatic grp (hgrp ▸ hentry)).2 clt hfind
  obtain ⟨clt, hmem, hcltStatic, hreceives⟩ := changed_clt hclt.1
  have hchanged : (op.changed (s.grp op.key)).isStatic = true := by
    cases hfound : s.grp op.key with
    | none => rfl
    | some grp => exact (hstatic grp (hgrp ▸ hfound)).1
  have hkept : ∃ grp ∈ (mccApply drv env.bridgeInfo s op).1.grp op.key,
      grp.isStatic = (op.changed (s.grp op.key)).isStatic ∧ clt ∈ mccCltFind grp.cltList op.ca :=
    grp_mccApply_of_clt hs hlt hmem
  obtain ⟨grp, hafter, hgrpStatic, hfind⟩ := hkept
  have hok : (mccApply drv env.bridgeInfo s op).2 = true := by rw [hcreate]
  have hdev := forwards_of_mccApply hdrv (hs.length ▸ hlt) hafter hok
  rw [hcreate] at hafter hdev
  exact ⟨⟨grp, hafter, hgrpStatic.trans hchanged, clt, hfind, hcltStatic.trans hclt.2, hreceives⟩,
    hdev⟩

end Runs

/-- A static flow is kept in every run in which each step leaves it alone, until it is
deleted, if its creation leaves the client as it is asked to. -/
theorem staticFlow_persists (hdrv : drv.Documented) {dev : D} {s created state : MccState D}
    {env : MccFlowEnv} {port : Nat} {flow : MccMcFlow} {fid : BitVec 8}
    (hreach : Reach (mccCoreStep drv) (mccInit dev) s) (hfid : env.flowFid flow.svid = some fid)
    (hcreate : mccPortStaticFlowCreate drv env s port flow = (created, true))
    (hspares : ∀ clt ∈ s.clt (flow.staticFlow port fid).key (flow.staticFlow port fid).ca,
      (flow.op port fid true true (mccIpAddrGet flow.ca)).Spares clt (mccIpAddrGet flow.sa))
    (hrun : ReachOn (mccCoreStep drv) (fun before event =>
        event.Guard drv (flow.staticFlow port fid) before ∧
          ¬ event.Deletes (flow.staticFlow port fid)) created state) :
    state.Keeps drv (flow.staticFlow port fid) := by
  have hs : s.Sound := by
    refine hreach.invariant (sound_mccInit dev) fun before event after hbefore _ hstep => ?_
    exact hbefore.step hstep
  have hcreated : created.Sound := by
    have hafter : created = (mccPortStaticFlowCreate drv env s port flow).1 := by rw [hcreate]
    rw [hafter]
    exact hs.loop
  have hkept : created.Keeps drv (flow.staticFlow port fid) :=
    hs.keeps_create hdrv hfid hcreate hspares
  have hsound : ∀ reached, ReachOn (mccCoreStep drv) (fun before event =>
      event.Guard drv (flow.staticFlow port fid) before ∧
        ¬ event.Deletes (flow.staticFlow port fid)) created reached → reached.Sound := by
    intro reached hreached
    refine hreached.invariant hcreated fun before event after hbefore _ hstep => ?_
    exact hbefore.step hstep
  have hstep : ∀ (before : MccState D) (event : MccCoreEvent) (after : MccState D), before.Sound →
      before.Keeps drv (flow.staticFlow port fid) →
      event.Guard drv (flow.staticFlow port fid) before ∧
        ¬ event.Deletes (flow.staticFlow port fid) →
      mccCoreStep drv before event = some after → after.Keeps drv (flow.staticFlow port fid) :=
    fun before event after hbefore hkeeps hguard hnext =>
      hkeeps.step hdrv hbefore hguard.1 hguard.2 hnext
  exact hrun.invariant_of hsound hkept hstep

/-! ## A query and its timer -/

/-- A driver with a table of port maps, as the header has it. -/
def mapDriver : MccDriver (BitVec 8 × BitVec 32 → Option (BitVec 8)) where
  ioctl dev
    | .portModify _ portMap fid ip =>
        (dev (fid, ip)).map fun _ => Function.update dev (fid, ip) (some portMap)
    | .portAdd lanPort fid ip =>
        some (Function.update dev (fid, ip)
          (some ((dev (fid, ip)).getD 0 ||| (1#8 <<< lanPort))))
    | .portDelete lanPort fid ip =>
        (dev (fid, ip)).map fun portMap =>
          Function.update dev (fid, ip) (some (portMap &&& ~~~(1#8 <<< lanPort)))
  Forwards dev port fid ip := ∃ portMap ∈ dev (fid, ip), portMap.getLsbD port = true

theorem mapDriver_documented : mapDriver.Documented where
  modify := by
    intro dev dev' bridge portMap fid ip port hioctl hmap
    obtain ⟨_, _, rfl⟩ := Option.map_eq_some_iff.mp hioctl
    exact ⟨portMap, Function.update_self .., hmap⟩
  modify_other := by
    intro dev dev' bridge portMap fid ip port fid' ip' hioctl hne hforwards
    obtain ⟨_, _, rfl⟩ := Option.map_eq_some_iff.mp hioctl
    obtain ⟨other, hother, hbit⟩ := hforwards
    exact ⟨other, (Function.update_of_ne hne ..).trans hother, hbit⟩
  add := by
    intro dev dev' lanPort fid ip port fid' ip' hioctl hforwards
    cases hioctl
    obtain ⟨portMap, hmap, hbit⟩ := hforwards
    by_cases hentry : (fid', ip') = (fid, ip)
    · obtain ⟨rfl, rfl⟩ := Prod.mk.inj hentry
      refine ⟨_, Function.update_self .., ?_⟩
      rw [Option.mem_def.mp hmap, Option.getD_some, BitVec.getLsbD_or, hbit, Bool.true_or]
    · exact ⟨portMap, (Function.update_of_ne hentry ..).trans hmap, hbit⟩
  delete_other := by
    intro dev dev' lanPort fid ip port fid' ip' hioctl hne hforwards
    obtain ⟨old, hold, rfl⟩ := Option.map_eq_some_iff.mp hioctl
    obtain ⟨portMap, hmap, hbit⟩ := hforwards
    by_cases hentry : (fid', ip') = (fid, ip)
    · have hport : port ≠ lanPort := fun hport => hne (by rw [hport, hentry])
      obtain ⟨rfl, rfl⟩ := Prod.mk.inj hentry
      rw [Option.mem_def, hold] at hmap
      cases hmap
      refine ⟨_, Function.update_self .., ?_⟩
      have hlt : port < 8 := BitVec.lt_of_getLsbD hbit
      rw [BitVec.getLsbD_and, hbit, Bool.true_and, BitVec.getLsbD_not, BitVec.getLsbD_shiftLeft,
        BitVec.getLsbD_one]
      have hbits : port < lanPort ∨ port - lanPort ≠ 0 := by omega
      rcases hbits with hbelow | habove
      · simp [hlt, hbelow]
      · simp [hlt, habove]
    · exact ⟨portMap, (Function.update_of_ne hentry ..).trans hmap, hbit⟩

def reported : MccState (BitVec 8 × BitVec 32 → Option (BitVec 8)) :=
  (mccIoctl mapDriver (mccInit fun _ => none) (.portAdd 0 1 0xe1000001)).1

def groupFlow : MccMcFlow := ⟨0, 0, 0xe1000001, 0, 0⟩

def groupEnv : MccFlowEnv := ⟨fun _ => some 1, fun _ => some 5⟩

def flowCreated : MccState (BitVec 8 × BitVec 32 → Option (BitVec 8)) :=
  (mccPortStaticFlowCreate mapDriver groupEnv reported 0 groupFlow).1

def generalQry : MccQry := ⟨mccIpAny, 260000, 0, mccIpAddrGet 0xe0000001⟩

def qryEnv : MccQryEnv := ⟨fun _ => some 1, fun _ _ => some 0⟩

theorem reached_reported : Reach (mccCoreStep mapDriver) (mccInit fun _ => none) reported := by
  have hstep : mccCoreStep mapDriver (mccInit fun _ => none)
      (.repUpdate 0 1 (mccIpAddrGet 0xe1000001)) = some reported := rfl
  exact ReachOn.refl.tail trivial hstep

theorem create_groupFlow :
    mccPortStaticFlowCreate mapDriver groupEnv reported 0 groupFlow = (flowCreated, true) := by
  have hok : (mccPortStaticFlowCreate mapDriver groupEnv reported 0 groupFlow).2 = true := by
    decide +kernel
  rw [← hok]
  rfl

/-- A general query starts the ageing timer of the static group; when it expires the group goes,
and the device does not forward it any more. -/
theorem staticFlow_not_persists :
    ¬ ∀ (D : Type) (drv : MccDriver D) (_ : drv.Documented) (dev : D) (s created state : MccState D)
      (env : MccFlowEnv) (port : Nat) (flow : MccMcFlow) (fid : BitVec 8),
      Reach (mccCoreStep drv) (mccInit dev) s → env.flowFid flow.svid = some fid →
      mccPortStaticFlowCreate drv env s port flow = (created, true) →
      ReachOn (mccCoreStep drv)
        (fun _ event => ¬ event.Deletes (flow.staticFlow port fid)) created state →
      state.Keeps drv (flow.staticFlow port fid) := by
  intro hall
  let key := (groupFlow.staticFlow 0 1).key
  let queried := mccQryProcess mapDriver qryEnv generalQry flowCreated
  have hqry : mccCoreStep mapDriver flowCreated (.query qryEnv generalQry) = some queried := rfl
  have hqueried : ReachOn (mccCoreStep mapDriver)
      (fun _ event => ¬ event.Deletes (groupFlow.staticFlow 0 1)) flowCreated queried :=
    ReachOn.refl.tail id hqry
  have hruns : key ∈ queried.ageing := by decide +kernel
  have hexpiry : mccCoreStep mapDriver queried (.ageing key) =
      some (mccGrpAgingTimeoutHandler mapDriver queried key) := by
    rw [mccCoreStep, if_pos hruns]
  have hexpired : ReachOn (mccCoreStep mapDriver)
      (fun _ event => ¬ event.Deletes (groupFlow.staticFlow 0 1)) flowCreated
      (mccGrpAgingTimeoutHandler mapDriver queried key) := hqueried.tail id hexpiry
  have hkeeps := hall _ mapDriver mapDriver_documented _ reported flowCreated _ groupEnv 0 groupFlow 1
    reached_reported rfl create_groupFlow hexpired
  obtain ⟨grp, hgrp, _⟩ := hkeeps.listed
  have hgone : (mccGrpAgingTimeoutHandler mapDriver queried key).grp key = none := by
    decide +kernel
  rw [Option.mem_def.mp hgrp] at hgone
  cases hgone

/-- The flow is kept while the timer runs. -/
theorem staticFlow_persists_queried :
    (mccQryProcess mapDriver qryEnv generalQry flowCreated).Keeps mapDriver
      (groupFlow.staticFlow 0 1) := by
  have hnew : reported.clt (groupFlow.staticFlow 0 1).key (groupFlow.staticFlow 0 1).ca = none := by
    decide +kernel
  have hqry : mccCoreStep mapDriver flowCreated (.query qryEnv generalQry) =
      some (mccQryProcess mapDriver qryEnv generalQry flowCreated) := rfl
  have hguard : (MccCoreEvent.query qryEnv generalQry).Guard mapDriver
        (groupFlow.staticFlow 0 1) flowCreated ∧
      ¬ (MccCoreEvent.query qryEnv generalQry).Deletes (groupFlow.staticFlow 0 1) := ⟨trivial, id⟩
  refine staticFlow_persists mapDriver_documented reached_reported rfl create_groupFlow ?_
    (ReachOn.refl.tail hguard hqry)
  intro clt hclt
  rw [hnew] at hclt
  cases hclt

end FalconGpon.Mcc
