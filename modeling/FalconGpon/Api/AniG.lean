/-
# The update of the ANI-G

`omci_api_ani_g_update` writes two configurations of the ONU and then two of the optics, each
after a read. It leaves in three ways: at once, over the restoring calls at its end, and, from
the optics on, at once again. The copies for the restoring calls are taken after the reads.
-/

import FalconGpon.Api.Mapper

namespace FalconGpon.Api

/-- `struct gtc_cfg`. -/
structure GtcCfg where
  bipErrorInterval : BitVec 32
  sfThreshold : BitVec 32
  sdThreshold : BitVec 32
  onuResponseTime : BitVec 32
  serialNumberRequestThreshold : BitVec 32
  rogueMsgId : BitVec 32
  rogueMsgRpt : BitVec 32
  rogueMsgEnable : BitVec 32
  ploamTimeout1 : BitVec 32
  ploamTimeout2 : BitVec 32
  emergencyStopState : BitVec 32
  password : Vector (BitVec 8) 10
  v751Reserved : BitVec 32
deriving DecidableEq

/-- `struct gpe_cfg`. -/
structure GpeCfg where
  gemBlkLen : BitVec 32
  gemPayloadSizeMax : BitVec 32
  pduSizeMaxEth : BitVec 32
  pduSizeMaxOmci : BitVec 32
  pduSizeMaxIp : BitVec 32
  pduSizeMaxMpls : BitVec 32
  dbruDbgMode : BitVec 32
  agingTime : BitVec 32
deriving DecidableEq

/-- `struct bosa_rx_config`. -/
structure BosaRxConfig where
  base : Vector (BitVec 8) 14
  lowerRssi : BitVec 32
  upperRssi : BitVec 32
deriving DecidableEq

/-- `struct bosa_tx_config`. -/
structure BosaTxConfig where
  base : Vector (BitVec 8) 30
  upperTxPower : BitVec 16
  lowerTxPower : BitVec 16
deriving DecidableEq

/-- What the drivers keep. Of `struct bosa_tx_status` only the slope efficiency is read. -/
structure AniGHardware where
  gtc : GtcCfg
  gpe : GpeCfg
  rxCfg : BosaRxConfig
  txCfg : BosaTxConfig
  slopeEfficiency : BitVec 16
deriving DecidableEq

/-- The arguments of `omci_api_ani_g_update`. -/
structure AniGArgs where
  gemBlockLen : BitVec 16
  sfThreshold : BitVec 8
  sdThreshold : BitVec 8
  lowerOpticThreshold : BitVec 8
  upperOpticThreshold : BitVec 8
  lowerTxPowerThreshold : BitVec 8
  upperTxPowerThreshold : BitVec 8
deriving DecidableEq

/-- The driver calls in their order, without the restoring ones. -/
inductive AniGCall
  | gtcCfgGet
  | gtcCfgSet
  | gpeCfgGet
  | gpeCfgSet
  | txCfgGet
  | rxCfgGet
  | rxCfgSet
  | txStatusGet
  | txCfgSet
deriving DecidableEq

/-- The conversions of the thresholds in floating point. -/
structure AniGScale where
  /-- `pow(10, x / -20) * 131072` as `uint32_t`. -/
  rssi : BitVec 8 → BitVec 32
  /-- A threshold over the slope efficiency as `uint16_t`. -/
  txPower : BitVec 8 → BitVec 16 → BitVec 16
  /-- The defaults over the slope efficiency. -/
  upperTxDefault : BitVec 16 → BitVec 16
  lowerTxDefault : BitVec 16 → BitVec 16

/-- What the update meets: the call that fails, if one does, with its code, and what is on the
stack where `gpe_cfg_old` lies. -/
structure AniGEnv where
  fault : Option AniGCall
  error : BitVec 32
  error_ne_zero : error ≠ 0
  gpeCfgOld : GpeCfg
  scale : AniGScale

namespace AniGEnv

/-- `dev_ctl` does not return `OMCI_API_SUCCESS`. -/
def fails (env : AniGEnv) (call : AniGCall) : Bool :=
  env.fault = some call

theorem fails_of_none {env : AniGEnv} (h : env.fault = none) (call : AniGCall) :
    env.fails call = false := by
  rw [fails, h]
  rfl

theorem fails_of_some {env : AniGEnv} {failing : AniGCall} (h : env.fault = some failing)
    (call : AniGCall) : env.fails call = decide (failing = call) := by
  rw [fails, h]
  exact decide_eq_decide.mpr Option.some_inj

end AniGEnv

namespace AniGHardware

variable (hw : AniGHardware) (env : AniGEnv) (args : AniGArgs)

/-- The GTC configuration that is written. -/
def gtcWritten : GtcCfg :=
  { hw.gtc with
    sfThreshold := args.sfThreshold.setWidth 32
    sdThreshold := args.sdThreshold.setWidth 32 }

def gpeWritten : GpeCfg :=
  { hw.gpe with gemBlkLen := args.gemBlockLen.setWidth 32 }

/-- The receive thresholds that are written. -/
def rxWritten : BosaRxConfig :=
  { hw.rxCfg with
    lowerRssi := if args.lowerOpticThreshold = 0xff then 0x0000a1e8
      else env.scale.rssi args.lowerOpticThreshold
    upperRssi := if args.upperOpticThreshold = 0xff then 0x00000041
      else env.scale.rssi args.upperOpticThreshold }

/-- The transmit thresholds that are written. -/
def txWritten : BosaTxConfig :=
  { hw.txCfg with
    upperTxPower := if args.upperTxPowerThreshold = 0x81
      then env.scale.upperTxDefault hw.slopeEfficiency
      else env.scale.txPower args.upperTxPowerThreshold hw.slopeEfficiency
    lowerTxPower := if args.lowerTxPowerThreshold = 0x81
      then env.scale.lowerTxDefault hw.slopeEfficiency
      else env.scale.txPower args.lowerTxPowerThreshold hw.slopeEfficiency }

/-- The calibration of the optics. -/
def opticUpdate : AniGHardware × BitVec 32 :=
  if env.fails .txCfgGet then (hw, env.error)
  else if env.fails .rxCfgGet then (hw, env.error)
  else if env.fails .rxCfgSet then (hw, env.error)
  else
    let hwRx := { hw with rxCfg := hw.rxWritten env args }
    if env.fails .txStatusGet then (hwRx, env.error)
    else if env.fails .txCfgSet then (hwRx, env.error)
    else ({ hwRx with txCfg := hw.txWritten env args }, 0)

def restore (gtcCfgOld : GtcCfg) (gpeCfgOld : GpeCfg) : AniGHardware :=
  { hw with gtc := gtcCfgOld, gpe := gpeCfgOld }

/-- `omci_api_ani_g_update`. -/
def update : AniGHardware × BitVec 32 :=
  if env.fails .gtcCfgGet then (hw, env.error)
  else if env.fails .gtcCfgSet then (hw, env.error)
  else
    let hwGtc := { hw with gtc := hw.gtcWritten args }
    -- the copy of the GPE configuration is taken only after its read
    if env.fails .gpeCfgGet then (hwGtc.restore hw.gtc env.gpeCfgOld, env.error)
    else if env.fails .gpeCfgSet then (hwGtc.restore hw.gtc hw.gpe, env.error)
    else { hwGtc with gpe := hw.gpeWritten args }.opticUpdate env args

def UpdateAtomic : Prop :=
  (hw.update env args).2 ≠ 0 →
    (hw.update env args).1.gtc = hw.gtc ∧ (hw.update env args).1.gpe = hw.gpe

/-- The arguments are what both configurations hold. -/
def Agrees : Prop :=
  args.sfThreshold.setWidth 32 = hw.gtc.sfThreshold ∧
    args.sdThreshold.setWidth 32 = hw.gtc.sdThreshold ∧
    args.gemBlockLen.setWidth 32 = hw.gpe.gemBlkLen

/-- The failing call is one of the first four, and if it is the read of the GPE configuration,
the stack holds that configuration; or there is nothing to change. -/
def Recovers : Prop :=
  match env.fault with
  | none | some .gtcCfgGet | some .gtcCfgSet | some .gpeCfgSet => True
  | some .gpeCfgGet => env.gpeCfgOld = hw.gpe
  | some .txCfgGet | some .rxCfgGet | some .rxCfgSet | some .txStatusGet | some .txCfgSet =>
      hw.Agrees args

variable {hw env args}

theorem gtcWritten_eq_iff :
    hw.gtcWritten args = hw.gtc ↔ args.sfThreshold.setWidth 32 = hw.gtc.sfThreshold ∧
      args.sdThreshold.setWidth 32 = hw.gtc.sdThreshold := by
  constructor
  · intro h
    exact ⟨congrArg GtcCfg.sfThreshold h, congrArg GtcCfg.sdThreshold h⟩
  · intro h
    rw [gtcWritten, h.1, h.2]

theorem gpeWritten_eq_iff :
    hw.gpeWritten args = hw.gpe ↔ args.gemBlockLen.setWidth 32 = hw.gpe.gemBlkLen := by
  constructor
  · intro h
    exact congrArg GpeCfg.gemBlkLen h
  · intro h
    rw [gpeWritten, h]

theorem agrees_iff :
    hw.Agrees args ↔ hw.gtcWritten args = hw.gtc ∧ hw.gpeWritten args = hw.gpe := by
  rw [gtcWritten_eq_iff, gpeWritten_eq_iff, and_assoc]
  exact Iff.rfl

theorem opticUpdate_frame (hw : AniGHardware) (env : AniGEnv) (args : AniGArgs) :
    (hw.opticUpdate env args).1.gtc = hw.gtc ∧ (hw.opticUpdate env args).1.gpe = hw.gpe := by
  unfold opticUpdate
  split_ifs <;> exact ⟨rfl, rfl⟩

theorem opticUpdate_of_none (h : env.fault = none) :
    hw.opticUpdate env args =
      ({ hw with rxCfg := hw.rxWritten env args, txCfg := hw.txWritten env args }, 0) := by
  simp only [opticUpdate, AniGEnv.fails_of_none h, Bool.false_eq_true, if_false]

def opticCalls : List AniGCall :=
  [.txCfgGet, .rxCfgGet, .rxCfgSet, .txStatusGet, .txCfgSet]

theorem opticUpdate_of_some {call : AniGCall} (h : env.fault = some call)
    (hcall : call ∈ opticCalls) : (hw.opticUpdate env args).2 = env.error := by
  unfold opticUpdate
  simp only [AniGEnv.fails_of_some h]
  cases call <;> first | rfl | exact absurd hcall (by decide)

theorem update_of_written (hgtcGet : env.fails .gtcCfgGet = false)
    (hgtcSet : env.fails .gtcCfgSet = false) (hgpeGet : env.fails .gpeCfgGet = false)
    (hgpeSet : env.fails .gpeCfgSet = false) :
    hw.update env args =
      { hw with gtc := hw.gtcWritten args, gpe := hw.gpeWritten args }.opticUpdate env args := by
  simp only [update, hgtcGet, hgtcSet, hgpeGet, hgpeSet, Bool.false_eq_true, if_false]

theorem update_of_none (h : env.fault = none) :
    hw.update env args =
      ({ hw with
        gtc := hw.gtcWritten args
        gpe := hw.gpeWritten args
        rxCfg := hw.rxWritten env args
        txCfg := hw.txWritten env args }, 0) := by
  have hfails := AniGEnv.fails_of_none h
  rw [update_of_written (hfails _) (hfails _) (hfails _) (hfails _), opticUpdate_of_none h]
  rfl

theorem updateAtomic_iff_of_optic {call : AniGCall} (h : env.fault = some call)
    (hcall : call ∈ opticCalls) : hw.UpdateAtomic env args ↔ hw.Agrees args := by
  have hearlier : ∀ other ∉ opticCalls, env.fails other = false := by
    intro other hother
    rw [AniGEnv.fails_of_some h]
    exact decide_eq_false fun hsame => hother (hsame ▸ hcall)
  have hupdate := @update_of_written hw env args (hearlier _ (by decide))
    (hearlier _ (by decide)) (hearlier _ (by decide)) (hearlier _ (by decide))
  have hcode : (hw.update env args).2 ≠ 0 := by
    rw [hupdate, opticUpdate_of_some h hcall]
    exact env.error_ne_zero
  have hframe := opticUpdate_frame
    { hw with gtc := hw.gtcWritten args, gpe := hw.gpeWritten args } env args
  rw [agrees_iff, UpdateAtomic, forall_prop_of_true hcode, hupdate, hframe.1, hframe.2]

theorem updateAtomic_iff_of_gpeCfgGet (h : env.fault = some .gpeCfgGet) :
    hw.UpdateAtomic env args ↔ env.gpeCfgOld = hw.gpe := by
  have hupdate : hw.update env args = ({ hw with gpe := env.gpeCfgOld }, env.error) := by
    simp only [update, AniGEnv.fails_of_some h]
    rfl
  rw [UpdateAtomic, hupdate]
  exact ⟨fun hkept => (hkept env.error_ne_zero).2, fun hsame _ => ⟨rfl, hsame⟩⟩

/-- The update is atomic exactly when the failing call is one it recovers from. -/
theorem updateAtomic_iff (hw : AniGHardware) (env : AniGEnv) (args : AniGArgs) :
    hw.UpdateAtomic env args ↔ hw.Recovers env args := by
  have hfails := @AniGEnv.fails_of_some env
  unfold Recovers
  cases hfault : env.fault with
  | none =>
      have hcode : (hw.update env args).2 = 0 := by rw [update_of_none hfault]
      exact iff_true_intro fun hfailed => absurd hcode hfailed
  | some call =>
      cases call with
      | gtcCfgGet | gtcCfgSet | gpeCfgSet =>
          have hupdate : hw.update env args = (hw, env.error) := by
            simp only [update, hfails hfault]
            rfl
          exact iff_true_intro fun _ => by rw [hupdate]; exact ⟨rfl, rfl⟩
      | gpeCfgGet => exact updateAtomic_iff_of_gpeCfgGet hfault
      | txCfgGet | rxCfgGet | rxCfgSet | txStatusGet | txCfgSet =>
          exact updateAtomic_iff_of_optic hfault (by decide)

/-- A configuration after a reset. -/
def initial : AniGHardware where
  gtc :=
    { bipErrorInterval := 5000, sfThreshold := 5, sdThreshold := 9, onuResponseTime := 0xaa
      serialNumberRequestThreshold := 10, rogueMsgId := 0, rogueMsgRpt := 0, rogueMsgEnable := 0
      ploamTimeout1 := 10000, ploamTimeout2 := 100, emergencyStopState := 0
      password := Vector.replicate 10 0x20, v751Reserved := 0 }
  gpe :=
    { gemBlkLen := 48, gemPayloadSizeMax := 4095, pduSizeMaxEth := 2000, pduSizeMaxOmci := 1984
      pduSizeMaxIp := 2000, pduSizeMaxMpls := 2000, dbruDbgMode := 0, agingTime := 300 }
  rxCfg := ⟨Vector.replicate 14 0, 0x0000a1e8, 0x41⟩
  txCfg := ⟨Vector.replicate 30 0, 0, 0⟩
  slopeEfficiency := 64

/-- A signal fail threshold of 3, and a call that fails with `OMCI_API_ERROR` while the stack is
clear. -/
theorem not_updateAtomic :
    let args : AniGArgs := ⟨48, 3, 9, 0xff, 0xff, 0x81, 0x81⟩
    let env (call : AniGCall) : AniGEnv :=
      ⟨some call, -1, by decide, ⟨0, 0, 0, 0, 0, 0, 0, 0⟩, ⟨fun _ => 0, fun _ _ => 0, id, id⟩⟩
    ¬initial.UpdateAtomic (env .gpeCfgGet) args ∧
      ∀ call ∈ opticCalls, ¬initial.UpdateAtomic (env call) args := by
  intro args env
  have hgpe : ¬(env .gpeCfgGet).gpeCfgOld = initial.gpe := by decide
  have hoptic : ¬initial.Agrees args := by unfold Agrees; decide
  constructor
  · rw [updateAtomic_iff_of_gpeCfgGet rfl]
    exact hgpe
  · intro call hcall
    rw [updateAtomic_iff_of_optic rfl hcall]
    exact hoptic

end AniGHardware

end FalconGpon.Api
