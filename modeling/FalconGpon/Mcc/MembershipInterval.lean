/-
# The group membership interval

A query says how long the members of a group may take to answer; a group without an answer for
the robustness times the query interval plus that response time has no members. What a query
says is compared with what `mcc_pkt_gmi_get` reads of it: in the first version of each protocol the
response time is a plain number and robustness and interval are the defaults, in the second one
(the third one of IGMP) the times are codes with mantissa and exponent. An interval that is
configured goes before that of the query (`mccAgingTo_iff`).
-/

import FalconGpon.Lib.FloatingCode
import FalconGpon.Lib.Wire
import FalconGpon.Mcc.PacketDecode

namespace FalconGpon.Mcc

open FalconGpon.Lib

/-! ## The configured interval -/

/-- The attributes of a Multicast operations profile that give an interval. -/
structure MccPolicy where
  robustness : BitVec 8
  /-- In seconds. -/
  queryInterval : BitVec 32
  /-- In tenths of a second. -/
  queryMaxRspTime : BitVec 32
deriving DecidableEq

/-- `mcc_omci_policy_gmi_get`. -/
def mccOmciPolicyGmiGet (policy : MccPolicy) : BitVec 32 :=
  if policy.robustness = 0 ∨ policy.queryInterval = 0 ∨ policy.queryMaxRspTime = 0 then 0
  else policy.queryInterval * policy.robustness.setWidth 32 * 1000 + policy.queryMaxRspTime * 100

/-- `mcc_omci_flw_gmi_get`, where there is a profile or none. -/
def mccOmciFlwGmiGet (policy : Option MccPolicy) : BitVec 32 :=
  (policy.map mccOmciPolicyGmiGet).getD 0

/-- The time to which `mcc_qry_process` sets the ageing timer of a group. -/
def mccAgingTo (policy : Option MccPolicy) (buf : RxBuffer) (info : MccPktInfo) :
    Traced Access (BitVec 32) :=
  if mccOmciFlwGmiGet policy = 0 then mccPktGmiGet buf info else pure (mccOmciFlwGmiGet policy)

/-! ## Queries -/

/-- The bytes of a query: the message of the first version, or the longer one of the second. -/
structure MccQueryMsg (prot : MccProt) where
  bytes : List (BitVec 8)
  type : bytes.head? = some prot.queryType
  length : bytes.length + 4 = prot.hdrSize ∨ prot.hdrSize ≤ bytes.length
  /-- It fits into a frame behind an IP header. -/
  fits : bytes.length + ipHdrSize ≤ 1500

def MccProt.responseMant : MccProt → Nat
  | igmp => 4
  | mld => 12

def MccProt.responseUnit : MccProt → Nat
  | igmp => 100
  | mld => 1

def robustnessOf (qrv : BitVec 8) : Nat :=
  if qrv.toNat % 8 = 0 then 2 else qrv.toNat % 8

def queryMsOf (qqic : BitVec 8) : Nat :=
  if qqic = 0 then 125000 else floatingValue 4 qqic.toNat * 1000

namespace MccQueryMsg

variable {prot : MccProt} (msg : MccQueryMsg prot)

def byte (i : Nat) : BitVec 8 :=
  msg.bytes.getD i 0

def isFirst : Bool :=
  msg.bytes.length < prot.hdrSize

/-- The response time in the units of the protocol. -/
def responseCode : Nat :=
  match prot with
  | .igmp => (msg.byte 1).toNat
  | .mld => (msg.byte 4 ++ msg.byte 5).toNat

/-- The response time in milliseconds; a code of zero says nothing. -/
def responseMs : Nat :=
  if msg.responseCode = 0 then 10000
  else
    (if msg.isFirst then msg.responseCode else floatingValue prot.responseMant msg.responseCode) *
      prot.responseUnit

def robustness : Nat :=
  if msg.isFirst then 2 else robustnessOf (msg.byte prot.qrvOffset)

def queryMs : Nat :=
  if msg.isFirst then 125000 else queryMsOf (msg.byte (prot.qrvOffset + 1))

def interval : Nat :=
  msg.robustness * msg.queryMs + msg.responseMs

/-- The message is in the buffer, and the headers in front of it tell its length. -/
structure CarriedBy (buf : RxBuffer) (info : MccPktInfo) : Prop where
  context : info.prot = prot
  holds : buf.Holds info.p msg.bytes.length
  lays : Lays buf.data info.p msg.bytes
  totLen : prot = .igmp → info.ipv4.totLen.toNat = info.ipv4.len + msg.bytes.length
  len : prot = .mld → info.len.toNat = msg.bytes.length

/-- The message is read as what it is: a message of the first version of IGMP has a response time
that is no larger as a code, and one of the first version of MLD is never taken for that. -/
def ReadRight : Prop :=
  msg.isFirst = true → prot = .igmp ∧ msg.responseCode ≤ 128

end MccQueryMsg

/-! ## The codes -/

section Codes

/-- The code of the source for mantissa and exponent. -/
theorem toNat_floatingCode {mantWidth : Nat} (hwidth : mantWidth ≤ 12) (code : BitVec 32) :
    (floatingCode mantWidth code).toNat = mantissaValue mantWidth code.toNat := by
  have hpow : 2 ^ mantWidth < 2 ^ 32 := Nat.pow_lt_pow_right (by decide) (by omega)
  have hpos := Nat.two_pow_pos mantWidth
  have hone : ((1 <<< mantWidth : Nat) : BitVec 32).toNat = 2 ^ mantWidth := by
    rw [BitVec.natCast_eq_ofNat, BitVec.toNat_ofNat, Nat.one_shiftLeft, Nat.mod_eq_of_lt hpow]
  have hmask : (((1 <<< mantWidth : Nat) : BitVec 32) - 1).toNat = 2 ^ mantWidth - 1 := by
    rw [BitVec.toNat_sub_of_le, hone]
    · rfl
    · rw [BitVec.le_def, hone]
      exact hpos
  have hmant : (code &&& (((1 <<< mantWidth : Nat) : BitVec 32) - (1 : BitVec 32)) |||
      ((1 <<< mantWidth : Nat) : BitVec 32)).toNat =
        code.toNat % 2 ^ mantWidth + 2 ^ mantWidth := by
    have hsum := Nat.two_pow_add_eq_or_of_lt (Nat.mod_lt code.toNat hpos) 1
    rw [BitVec.toNat_or, BitVec.toNat_and, hone, hmask, Nat.and_two_pow_sub_one_eq_mod,
      Nat.lor_comm]
    rw [Nat.mul_one] at hsum
    rw [← hsum, Nat.add_comm]
  have hexp : (code >>> mantWidth &&& 7).toNat = code.toNat / 2 ^ mantWidth % 8 := by
    have hseven : (7 : BitVec 32).toNat = 2 ^ 3 - 1 := rfl
    rw [BitVec.toNat_and, BitVec.toNat_ushiftRight, Nat.shiftRight_eq_div_pow, hseven,
      Nat.and_two_pow_sub_one_eq_mod]
  have hlt : mantissaValue mantWidth code.toNat < 2 ^ 32 :=
    mantissaValue_lt.trans_le (Nat.pow_le_pow_right (by decide) (by omega))
  rw [floatingCode, BitVec.toNat_shiftLeft, hmant, hexp, Nat.shiftLeft_eq]
  exact Nat.mod_eq_of_lt hlt

theorem toNat_mul_of_lt {time unit : BitVec 32} {n : Nat} (htime : time.toNat = n)
    (hlt : n * unit.toNat < 2 ^ 32) : (time * unit).toNat = n * unit.toNat := by
  rw [BitVec.toNat_mul, htime, Nat.mod_eq_of_lt hlt]

theorem toNat_igmpMaxRespDelay (code : BitVec 8) : (igmpMaxRespDelay code).toNat =
      if code.toNat = 0 then 10000 else floatingValue 4 code.toNat * 100 := by
  have hwide : (code.setWidth 32).toNat = code.toNat := BitVec.toNat_setWidth_of_le (by decide)
  have hcode : code < 128 ↔ code.toNat < 128 := BitVec.lt_def
  have hzero : code = 0 ↔ code.toNat = 0 := BitVec.toNat_inj.symm
  have hvalue : mantissaValue 4 code.toNat < 2 ^ 15 := mantissaValue_lt
  unfold igmpMaxRespDelay floatingValue
  simp only [hzero, hcode]
  split
  · rfl
  · split
    · rename_i hlt
      rw [if_pos (by omega)]
      exact toNat_mul_of_lt hwide (by simp; omega)
    · rename_i hge
      have hfloating := toNat_floatingCode (by decide : 4 ≤ 12) (code.setWidth 32)
      rw [hwide] at hfloating
      rw [if_neg (by omega)]
      exact toNat_mul_of_lt hfloating (by simp; omega)

theorem toNat_mldMaxRespDelay (delay : BitVec 16) : (mldMaxRespDelay delay).toNat =
      if delay.toNat = 0 then 10000 else floatingValue 12 delay.toNat := by
  have hwide : (delay.setWidth 32).toNat = delay.toNat := BitVec.toNat_setWidth_of_le (by decide)
  have hdelay : delay < 32768 ↔ delay.toNat < 32768 := BitVec.lt_def
  have hzero : delay = 0 ↔ delay.toNat = 0 := BitVec.toNat_inj.symm
  unfold mldMaxRespDelay floatingValue
  simp only [hzero, hdelay]
  split
  · rfl
  · split
    · rw [if_pos (by omega)]
      exact hwide
    · rw [if_neg (by omega), toNat_floatingCode (by decide : 12 ≤ 12), hwide]

/-- The three bits of the robustness. -/
theorem toNat_robustness (qrv : BitVec 8) :
    (if (qrv &&& 7).setWidth 32 = (0 : BitVec 32) then mccQueryRobustnessDefault
      else (qrv &&& 7).setWidth 32).toNat = robustnessOf qrv := by
  have hseven : (7 : BitVec 8).toNat = 2 ^ 3 - 1 := rfl
  have hbits : ((qrv &&& 7).setWidth 32 : BitVec 32).toNat = qrv.toNat % 8 := by
    rw [BitVec.toNat_setWidth_of_le (by decide), BitVec.toNat_and, hseven,
      Nat.and_two_pow_sub_one_eq_mod]
  have hzero : (qrv &&& 7).setWidth 32 = (0 : BitVec 32) ↔ qrv.toNat % 8 = 0 := by
    rw [← BitVec.toNat_inj, hbits]
    rfl
  rw [robustnessOf]
  simp only [hzero]
  split
  · rfl
  · exact hbits

theorem toNat_queryMs (qqic : BitVec 8) : (if qqic = 0 then mccQueryIntervalDefault
      else if qqic < 128 then qqic.setWidth 32 * 1000
      else floatingCode 4 (qqic.setWidth 32) * 1000).toNat = queryMsOf qqic := by
  have hwide : (qqic.setWidth 32).toNat = qqic.toNat := BitVec.toNat_setWidth_of_le (by decide)
  have hqqic : qqic < 128 ↔ qqic.toNat < 128 := BitVec.lt_def
  have hvalue : mantissaValue 4 qqic.toNat < 2 ^ 15 := mantissaValue_lt
  unfold queryMsOf floatingValue
  simp only [hqqic]
  split
  · rfl
  · split
    · rename_i hlt
      rw [if_pos (by omega)]
      exact toNat_mul_of_lt hwide (by simp; omega)
    · rename_i hge
      have hfloating := toNat_floatingCode (by decide : 4 ≤ 12) (qqic.setWidth 32)
      rw [hwide] at hfloating
      rw [if_neg (by omega)]
      exact toNat_mul_of_lt hfloating (by simp; omega)

theorem robustnessOf_lt (qrv : BitVec 8) : robustnessOf qrv < 8 := by
  unfold robustnessOf
  split <;> omega

theorem queryMsOf_lt (qqic : BitVec 8) : queryMsOf qqic < 2 ^ 25 := by
  have hvalue : floatingValue 4 qqic.toNat < 2 ^ 15 := floatingValue_lt
  unfold queryMsOf
  split <;> omega

end Codes

/-! ## The interval of a query -/

namespace MccQueryMsg

variable {prot : MccProt} {msg : MccQueryMsg prot} {buf : RxBuffer} {info : MccPktInfo}

def decodedResponseMs (msg : MccQueryMsg prot) : Nat :=
  if msg.responseCode = 0 then 10000
  else floatingValue prot.responseMant msg.responseCode * prot.responseUnit

/-- What is multiplied in `mcc_pkt_gmi_get`: of MLD the two bytes behind the first version. -/
def decodedQueryMs (msg : MccQueryMsg prot) (buf : RxBuffer) (info : MccPktInfo) : Nat :=
  if prot = .igmp ∧ msg.isFirst = true then 250000
  else
    robustnessOf (buf.data (info.p + prot.qrvOffset)) *
      queryMsOf (buf.data (info.p + prot.qrvOffset + 1))

theorem eight_le_length (msg : MccQueryMsg prot) : 8 ≤ msg.bytes.length := by
  have hlength := msg.length
  cases prot <;> simp only [MccProt.hdrSize] at hlength <;> omega

theorem eight_lt_length (msg : MccQueryMsg .mld) : 8 < msg.bytes.length := by
  have hlength := msg.length
  simp only [MccProt.hdrSize] at hlength
  omega

theorem decodedResponseMs_lt (msg : MccQueryMsg prot) : msg.decodedResponseMs < 2 ^ 23 := by
  unfold decodedResponseMs
  split
  · decide
  · cases prot with
    | igmp =>
        have hvalue : floatingValue 4 msg.responseCode < 2 ^ 15 := floatingValue_lt
        simp only [MccProt.responseMant, MccProt.responseUnit]
        omega
    | mld =>
        have hvalue : floatingValue 12 msg.responseCode < 2 ^ 23 := floatingValue_lt
        simp only [MccProt.responseMant, MccProt.responseUnit]
        omega

namespace CarriedBy

variable (h : msg.CarriedBy buf info)
include h

theorem data_eq {i : Nat} (hi : i < msg.bytes.length) : buf.data (info.p + i) = msg.byte i := by
  rw [h.lays.get hi, byte, List.getD_eq_getElem _ _ hi]

theorem data_type : buf.data info.p = prot.queryType := by
  have hpos : 0 < msg.bytes.length := Nat.lt_of_lt_of_le (by decide) msg.eight_le_length
  have hfirst := h.data_eq hpos
  rw [Nat.cast_zero, add_zero] at hfirst
  have htype := msg.type
  rw [List.head?_eq_getElem?] at htype
  rw [hfirst, byte, List.getD_eq_getElem?_getD, htype, Option.getD_some]

/-- The response time that the contexts read. -/
theorem result_maxRespDelayGet :
    ∃ mrt, (maxRespDelayGet buf info).result = some mrt ∧
      mrt.toNat = msg.decodedResponseMs := by
  have hlength := msg.eight_le_length
  have hcontext := h.context
  cases prot with
  | igmp =>
      have hcode := h.data_eq (by omega : 1 < msg.bytes.length)
      rw [Nat.cast_one] at hcode
      refine ⟨igmpMaxRespDelay (msg.byte 1), ?_, toNat_igmpMaxRespDelay _⟩
      rw [maxRespDelayGet, hcontext, hcode]
      rfl
  | mld =>
      have hhigh := h.data_eq (by omega : 4 < msg.bytes.length)
      have hlow := h.data_eq (by omega : 5 < msg.bytes.length)
      have hfield : buf.field16 (info.p + 4) = msg.byte 4 ++ msg.byte 5 := by
        rw [RxBuffer.field16, ← hhigh, ← hlow, add_assoc]
        rfl
      refine ⟨mldMaxRespDelay (msg.byte 4 ++ msg.byte 5), ?_, ?_⟩
      · rw [maxRespDelayGet, hcontext, hfield]
        rfl
      · rw [toNat_mldMaxRespDelay, decodedResponseMs]
        simp only [responseCode, MccProt.responseMant, MccProt.responseUnit, Nat.mul_one]

/-- The version is found by the length, but every query of MLD counts as one of the second. -/
theorem version_eq :
    info.version prot.queryType =
      if prot = .igmp ∧ msg.isFirst = true then .igmpV2
      else if prot = .igmp then .igmpV3 else .mldV2 := by
  have hkinds := msg.length
  rw [MccPktInfo.version, h.context]
  cases prot with
  | igmp =>
      have hlength := h.totLen rfl
      have hmin := msg.eight_le_length
      have hrest : info.ipv4.totLen.toNat - info.ipv4.len = msg.bytes.length := by omega
      have hbehind : info.ipv4.len < info.ipv4.totLen.toNat := by omega
      have hfirst : msg.isFirst = true ↔ ¬ 8 < msg.bytes.length := by
        rw [isFirst, decide_eq_true_iff]
        rw [MccProt.hdrSize] at hkinds ⊢
        omega
      have hversion : mccIgmpVerGet info MccProt.igmp.queryType =
          if info.ipv4.len < info.ipv4.totLen.toNat then
            if 8 < info.ipv4.totLen.toNat - info.ipv4.len then .igmpV3 else .igmpV2
          else .na := by
        simp [mccIgmpVerGet, MccProt.queryType, MccProt.reportType, MccProt.leaveType,
          MccProt.recordsType, mccIgmpTypeV1MembershipReport]
      simp only [hversion, hbehind, hrest, hfirst, true_and, if_true]
      split <;> rfl
  | mld =>
      have hlong : 8 < info.len := by
        rw [BitVec.lt_def, h.len rfl]
        exact msg.eight_lt_length
      have hversion : mccMldVerGet info MccProt.mld.queryType =
          if 8 < info.len then .mldV2 else .mldV1 := rfl
      rw [if_neg (fun hprot => nomatch hprot.1), if_neg (fun hprot => nomatch hprot)]
      exact hversion.trans (if_pos hlong)

/-- The interval that the packet layer computes. -/
theorem result_gmi :
    ∃ gmi, (mccPktGmiGet buf info).result = some gmi ∧
      gmi.toNat = msg.decodedQueryMs buf info + msg.decodedResponseMs := by
  have ⟨mrt, hmrt, hvalue⟩ := h.result_maxRespDelayGet
  have hresponse := msg.decodedResponseMs_lt
  have hversion : (versionGet buf info).result = some (info.version prot.queryType) := by
    rw [versionGet, Traced.result_bind, RxBuffer.read8, Traced.result_emit, h.data_type]
    rfl
  rw [mccPktGmiGet, Traced.result_bind, hversion, Option.bind_some, Traced.result_bind, hmrt,
    Option.bind_some, h.version_eq, decodedQueryMs]
  by_cases hfirst : prot = .igmp ∧ msg.isFirst = true
  · rw [if_pos hfirst, if_pos hfirst]
    refine ⟨_, rfl, ?_⟩
    have hproduct : (mccQueryIntervalDefault * mccQueryRobustnessDefault).toNat = 250000 := rfl
    rw [BitVec.toNat_add, hvalue, hproduct]
    exact Nat.mod_eq_of_lt (by omega)
  · rw [if_neg hfirst, if_neg hfirst]
    have hsecond : ∀ version : MccPktVersion,
        version = (if prot = .igmp then .igmpV3 else .mldV2) →
          version.isSingle = false ∧ version.hasRecords = true := by
      intro version hversion
      subst hversion
      cases prot <;> exact ⟨rfl, rfl⟩
    have ⟨hsingle, hrecords⟩ := hsecond _ rfl
    rw [hsingle, hrecords]
    refine ⟨_, rfl, ?_⟩
    have hqrv := robustnessOf_lt (buf.data (info.p + prot.qrvOffset))
    have hqi := queryMsOf_lt (buf.data (info.p + prot.qrvOffset + 1))
    have hproduct : robustnessOf (buf.data (info.p + prot.qrvOffset)) *
        queryMsOf (buf.data (info.p + prot.qrvOffset + 1)) ≤ 7 * 2 ^ 25 :=
      Nat.mul_le_mul (by omega) hqi.le
    have hlt := hproduct.trans_lt (by decide : 7 * 2 ^ 25 < 2 ^ 32)
    rw [BitVec.toNat_add, BitVec.toNat_mul, hvalue, h.context, toNat_queryMs, toNat_robustness,
      Nat.mul_comm, Nat.mod_eq_of_lt hlt]
    exact Nat.mod_eq_of_lt (by omega)

/-- A message that is read as what it is has its interval. -/
theorem decoded_eq (hright : msg.ReadRight) :
    msg.decodedQueryMs buf info + msg.decodedResponseMs = msg.interval := by
  rw [interval, decodedQueryMs, robustness, queryMs, decodedResponseMs, responseMs]
  by_cases hfirst : msg.isFirst = true
  · have ⟨higmp, hcode⟩ := hright hfirst
    subst higmp
    have hvalue : floatingValue 4 msg.responseCode = msg.responseCode :=
      (floatingValue_eq_self_iff (by omega)).mpr hcode
    simp only [hfirst, and_self, if_true, MccProt.responseMant, hvalue]
  · have hlength := msg.length
    have hlong : prot.hdrSize ≤ msg.bytes.length := by
      rw [isFirst, decide_eq_true_iff] at hfirst
      omega
    have hoffset : prot.qrvOffset + 1 < msg.bytes.length := by
      cases prot <;> simp only [MccProt.hdrSize, MccProt.qrvOffset] at hlong ⊢ <;> omega
    have hqrv := h.data_eq (by omega : prot.qrvOffset < msg.bytes.length)
    have hqqic := h.data_eq hoffset
    rw [Nat.cast_add, Nat.cast_one, ← add_assoc] at hqqic
    simp [hfirst, hqrv, hqqic]

end CarriedBy

/-! ### A packet with a query -/

/-- A packet with the query, and the bytes 7 and 255 behind it. -/
def packet (msg : MccQueryMsg prot) : RxBuffer where
  data := memOf (List.replicate 70 0 ++ msg.bytes ++ [7, 255]) 0
  len := 70 + msg.bytes.length
  len_le := by
    have hfits := msg.fits
    simp only [ipHdrSize] at hfits
    rw [mccPktMaxSizeByte]
    omega

/-- What the headers of the packet say. -/
def packetInfo (msg : MccQueryMsg prot) : MccPktInfo where
  ipv4 := { IpHdr.zero with ihl := 5, totLen := BitVec.ofNat 16 (20 + msg.bytes.length) }
  ipv6 := .zero
  prot := prot
  p := 70
  len := BitVec.ofNat 32 msg.bytes.length
  pktType := .igmpQuery
  llinfo := mccLlInfoDefault

theorem carriedBy_packet (msg : MccQueryMsg prot) : msg.CarriedBy msg.packet msg.packetInfo where
  context := rfl
  holds := ⟨Int.natCast_nonneg 70, by simp [packet, packetInfo]⟩
  lays := lays_memOf
  totLen := by
    intro _
    have hfits := msg.fits
    simp only [ipHdrSize] at hfits
    rw [packetInfo, BitVec.toNat_ofNat, Nat.mod_eq_of_lt (by omega)]
    rfl
  len := by
    intro _
    have hfits := msg.fits
    rw [packetInfo, BitVec.toNat_ofNat, Nat.mod_eq_of_lt (by omega)]

theorem packet_behind (msg : MccQueryMsg prot) (i : Nat) :
    msg.packet.data (70 + (msg.bytes.length + i : Nat)) =
      ([7, 255] : List (BitVec 8)).getD i 0 := by
  have hlength : (List.replicate 70 (0 : BitVec 8) ++ msg.bytes).length =
      70 + msg.bytes.length := by
    rw [List.length_append, List.length_replicate]
  have hindex : ((70 + (msg.bytes.length + i : Nat) : Int)).toNat = 70 + msg.bytes.length + i := by
    omega
  have hdata : msg.packet.data (70 + (msg.bytes.length + i : Nat)) =
      (List.replicate 70 0 ++ msg.bytes ++ [7, 255]).getD
        ((70 + (msg.bytes.length + i : Nat) : Int)).toNat 0 := rfl
  rw [hdata, hindex, List.getD_append_right _ _ _ _ (by omega), hlength, Nat.add_sub_cancel_left]

/-- A packet from which a message is not read as what it is. -/
theorem decoded_packet_ne (hwrong : ¬ msg.ReadRight) :
    msg.decodedQueryMs msg.packet msg.packetInfo + msg.decodedResponseMs ≠ msg.interval := by
  rw [ReadRight, Classical.not_imp] at hwrong
  obtain ⟨hfirst, hcode⟩ := hwrong
  rw [interval, decodedQueryMs, robustness, queryMs, decodedResponseMs, responseMs]
  cases prot with
  | igmp =>
      have hlarge : ¬ msg.responseCode ≤ 128 := fun hle => hcode ⟨rfl, hle⟩
      have hbyte : msg.responseCode < 2 ^ 8 := (msg.byte 1).isLt
      have hvalue : floatingValue 4 msg.responseCode ≠ msg.responseCode :=
        fun heq => hlarge ((floatingValue_eq_self_iff hbyte).mp heq)
      have hzero : msg.responseCode ≠ 0 := by omega
      simp only [hfirst, and_self, if_true, MccProt.responseMant, MccProt.responseUnit, hzero,
        if_false]
      omega
  | mld =>
      have hlength : msg.bytes.length = 24 := by
        have hkinds := msg.length
        rw [isFirst, decide_eq_true_iff] at hfirst
        simp only [MccProt.hdrSize] at hkinds hfirst
        omega
      have hqrv := msg.packet_behind 0
      have hqqic := msg.packet_behind 1
      rw [hlength] at hqrv hqqic
      have hqrv' : msg.packet.data (msg.packetInfo.p + MccProt.mld.qrvOffset) = 7 := hqrv
      have hqqic' : msg.packet.data (msg.packetInfo.p + MccProt.mld.qrvOffset + 1) = 255 := hqqic
      have hproduct : robustnessOf 7 * queryMsOf 255 = 222208000 := by decide
      have hword : msg.responseCode < 2 ^ 16 := (msg.byte 4 ++ msg.byte 5).isLt
      have hprot : ¬ (MccProt.mld = .igmp ∧ msg.isFirst = true) := fun hboth => by cases hboth.1
      rw [if_neg hprot, hqrv', hqqic', hproduct, if_pos hfirst, if_pos hfirst, if_pos hfirst]
      simp only [MccProt.responseUnit]
      split <;> omega

end MccQueryMsg

/-! ## The interval for the ageing of a group -/

namespace MccPolicy

variable (policy : MccPolicy)

def configured : Bool :=
  policy.robustness ≠ 0 ∧ policy.queryInterval ≠ 0 ∧ policy.queryMaxRspTime ≠ 0

def interval : Nat :=
  policy.robustness.toNat * (policy.queryInterval.toNat * 1000) +
    policy.queryMaxRspTime.toNat * 100

variable {policy}

theorem mccOmciPolicyGmiGet_eq_zero (h : policy.configured = false) :
    mccOmciPolicyGmiGet policy = 0 := by
  rw [configured, decide_eq_false_iff_not] at h
  rw [mccOmciPolicyGmiGet, if_pos (by tauto)]

theorem toNat_mccOmciPolicyGmiGet (h : policy.configured = true) :
    (mccOmciPolicyGmiGet policy).toNat = policy.interval % 2 ^ 32 := by
  rw [configured, decide_eq_true_iff] at h
  have hwide : (policy.robustness.setWidth 32).toNat = policy.robustness.toNat :=
    BitVec.toNat_setWidth_of_le (by decide)
  have hsame : policy.interval = policy.queryInterval.toNat * policy.robustness.toNat * 1000 +
      policy.queryMaxRspTime.toNat * 100 := by
    rw [interval]
    ring
  have hthousand : (1000 : BitVec 32).toNat = 1000 := rfl
  have hhundred : (100 : BitVec 32).toNat = 100 := rfl
  rw [mccOmciPolicyGmiGet, if_neg (by tauto), hsame, BitVec.toNat_add, BitVec.toNat_mul,
    BitVec.toNat_mul, BitVec.toNat_mul, hwide, hthousand, hhundred, Nat.mod_mul_mod,
    ← Nat.add_mod]

theorem interval_pos (h : policy.configured = true) : 0 < policy.interval := by
  rw [configured, decide_eq_true_iff] at h
  have hpos : policy.queryMaxRspTime.toNat ≠ 0 := by
    intro hzero
    exact h.2.2 (BitVec.toNat_inj.mp hzero)
  rw [interval]
  omega

end MccPolicy

variable {prot : MccProt}

/-- The interval by which a group ages out: the configured one goes before that of the query. -/
def agingInterval (policy : Option MccPolicy) (msg : MccQueryMsg prot) : Nat :=
  match policy.filter MccPolicy.configured with
  | some policy => policy.interval
  | none => msg.interval

/-- The interval that is configured fits into 32 bits, and without one the message is read as what
it is. -/
def AgingRight (policy : Option MccPolicy) (msg : MccQueryMsg prot) : Prop :=
  match policy.filter MccPolicy.configured with
  | some policy => policy.interval < 2 ^ 32
  | none => msg.ReadRight

theorem MccQueryMsg.interval_pos (msg : MccQueryMsg prot) : 0 < msg.interval := by
  have hunit : 0 < prot.responseUnit := by
    cases prot <;> decide
  have hresponse : 0 < msg.responseMs := by
    unfold responseMs
    split
    · decide
    · rename_i hcode
      have hpos := Nat.pos_of_ne_zero hcode
      split
      · exact Nat.mul_pos hpos hunit
      · exact Nat.mul_pos (floatingValue_pos hpos) hunit
  exact Nat.add_pos_right _ hresponse

/-- The timer of a group is set to the interval from every packet with the query. -/
theorem mccAgingTo_iff (policy : Option MccPolicy) (msg : MccQueryMsg prot) :
    (∀ buf info, msg.CarriedBy buf info →
      ∃ gmi, (mccAgingTo policy buf info).result = some gmi ∧
        gmi.toNat = agingInterval policy msg ∧ gmi ≠ 0) ↔ AgingRight policy msg := by
  rw [agingInterval, AgingRight]
  cases hconfigured : policy.filter MccPolicy.configured with
  | some profile =>
      have ⟨hpolicy, hgives⟩ := Option.filter_eq_some_iff.mp hconfigured
      subst hpolicy
      have hvalue := MccPolicy.toNat_mccOmciPolicyGmiGet hgives
      have hpos := MccPolicy.interval_pos hgives
      constructor
      · intro hright
        have ⟨gmi, _, hgmi, _⟩ := hright _ _ msg.carriedBy_packet
        simp only at hgmi ⊢
        rw [← hgmi]
        exact gmi.isLt
      · intro hfits buf info _
        rw [Nat.mod_eq_of_lt hfits] at hvalue
        have hne : mccOmciFlwGmiGet (some profile) ≠ 0 :=
          ne_of_apply_ne BitVec.toNat fun hzero => hpos.ne' (hvalue.symm.trans hzero)
        refine ⟨_, ?_, hvalue, hne⟩
        rw [mccAgingTo, if_neg hne]
        rfl
  | none =>
      have hzero : mccOmciFlwGmiGet policy = 0 := by
        cases policy with
        | none => rfl
        | some profile =>
            have hnot := Option.filter_eq_none_iff.mp hconfigured profile rfl
            exact MccPolicy.mccOmciPolicyGmiGet_eq_zero (Bool.not_eq_true _ ▸ hnot)
      have hquery : ∀ buf info, mccAgingTo policy buf info = mccPktGmiGet buf info := by
        intro buf info
        rw [mccAgingTo, if_pos hzero]
      constructor
      · intro hright
        by_contra hwrong
        have ⟨gmi, hresult, hgmi, _⟩ := hright _ _ msg.carriedBy_packet
        have ⟨gmi', hresult', hgmi'⟩ := msg.carriedBy_packet.result_gmi
        rw [hquery, hresult', Option.some_inj] at hresult
        subst hresult
        exact MccQueryMsg.decoded_packet_ne hwrong (hgmi'.symm.trans hgmi)
      · intro hread buf info hcarried
        have ⟨gmi, hresult, hgmi⟩ := hcarried.result_gmi
        rw [hcarried.decoded_eq hread] at hgmi
        have hne : gmi ≠ 0 :=
          ne_of_apply_ne BitVec.toNat fun hgmizero =>
            msg.interval_pos.ne' (hgmi.symm.trans hgmizero)
        exact ⟨gmi, (congrArg Traced.result (hquery buf info)).trans hresult, hgmi, hne⟩

/-- A general query of the first version of MLD with a response time of a second. -/
def mldV1Query : MccQueryMsg .mld where
  bytes := [130, 0, 0, 0, 3, 232, 0, 0] ++ List.replicate 16 0
  type := rfl
  length := Or.inl rfl
  fits := by decide

/-- The bytes behind the query are taken for robustness and interval. -/
theorem mccAgingTo_mldV1Query :
    agingInterval none mldV1Query = 251000 ∧
      ∃ buf info, mldV1Query.CarriedBy buf info ∧
        (mccAgingTo none buf info).result = some 222209000 :=
  ⟨by decide, _, _, mldV1Query.carriedBy_packet, by decide⟩

end FalconGpon.Mcc
