/-
# Multicast access control

`mcc_omci_flw_wlist_get` reads the rows of the dynamic ACL that cover a group into a white list,
and `mcc_rec_restrict` keeps of a record what the white list allows. A record that is not
reported as unauthorized stands for the requested sources that a row allows, and it is
reported exactly if there are none (`mccRecRestrict_law`).
-/

import FalconGpon.Mcc.ClientSources
import FalconGpon.Mcc.FlowControl
import FalconGpon.Omci.AclTables

namespace FalconGpon.Mcc

open FalconGpon.Lib
open FalconGpon.Omci (AclRow AclEntry)

/-! ## The white list -/

/-- `enum mcc_omci_prot_version_option`. -/
inductive MccOmciProtVersionOption
  | default
  | iop0
deriving DecidableEq

/-- The attributes of a Multicast Operations Profile that a white list is made of. -/
structure MulticastOperationsProfile where
  igmpVersion : BitVec 8
  unauthorizedJoinRequestBehavior : Bool
  dynamicAclTable : List AclRow

/-- `MCC_PROT_VERSION_IGMP_V2`. -/
abbrev mccProtVersionIgmpV2 : Nat := 2

/-- `MCC_PROT_VERSION_IGMP_V3`. -/
abbrev mccProtVersionIgmpV3 : Nat := 3

/-- `MCC_PROT_VERSION_MLD_V1`. -/
abbrev mccProtVersionMldV1 : Nat := 16

/-- `MCC_PROT_VERSION_MLD_V2`. -/
abbrev mccProtVersionMldV2 : Nat := 17

def protBits (versions : List Nat) : BitVec 32 :=
  versions.foldl (fun mask version => mask ||| 1#32 <<< version) 0

/-- `prot_mask` for an IGMP version attribute. -/
def mccOmciProtMask : MccOmciProtVersionOption → BitVec 8 → BitVec 32
  | .default, igmpVersion =>
      if igmpVersion = 2 then protBits [mccProtVersionIgmpV2]
      else if igmpVersion = 3 then protBits [mccProtVersionIgmpV2, mccProtVersionIgmpV3]
      else if igmpVersion = 16 then protBits [mccProtVersionMldV1]
      else if igmpVersion = 17 then protBits [mccProtVersionMldV1, mccProtVersionMldV2]
      else 0
  | .iop0, igmpVersion =>
      if igmpVersion = 2 then
        protBits [mccProtVersionIgmpV2, mccProtVersionMldV1, mccProtVersionMldV2]
      else if igmpVersion = 3 ∨ igmpVersion = 17 then
        protBits [mccProtVersionIgmpV2, mccProtVersionIgmpV3, mccProtVersionMldV1,
          mccProtVersionMldV2]
      else if igmpVersion = 16 then
        protBits [mccProtVersionIgmpV2, mccProtVersionIgmpV3, mccProtVersionMldV1]
      else 0

def aclSource (dacl : AclRow) : MccIpAddr := dacl.entry.sourceIp ++ 0#96

/-- `dacl_ipv4_match`: the source of a row that matches, and whether it is any source. -/
def daclIpv4Match (dacl : AclRow) (da : MccIpAddr) : Option (MccIpAddr × Bool) :=
  if mccIpv4 da < dacl.entry.destStartIp ∨ dacl.entry.destEndIp < mccIpv4 da then none
  else some (aclSource dacl, dacl.entry.sourceIp = 0)

/-- The loop over the rows; it ends at the first that matches any source. -/
def daclSources (da : MccIpAddr) : List AclRow → List MccSrcEntry
  | [] => []
  | dacl :: rest =>
      match daclIpv4Match dacl da with
      | none => daclSources da rest
      | some (sa, anySource) =>
          ⟨sa, dacl.entry.groupBandwidth, false, false⟩ ::
            if anySource then [] else daclSources da rest

def daclVid (da : MccIpAddr) (rows : List AclRow) : BitVec 16 :=
  ((rows.find? fun dacl => (daclIpv4Match dacl da).isSome).map (·.entry.vlanId)).getD 0

/-- `struct mcc_omci_wlist` before the source list is cleaned. -/
structure MccPolicyWlist where
  srcList : List MccSrcEntry
  vid : BitVec 16
  passUnauth : Bool
  supportedProtMask : BitVec 32

/-- `mcc_omci_policy_wlist_get`; without rows any source matches. -/
def mccOmciPolicyWlistGet (policy : MulticastOperationsProfile) (svid : BitVec 16) (ver : Nat)
    (verOpt : MccOmciProtVersionOption) (da : MccIpAddr) : MccPolicyWlist :=
  let passUnauth := policy.unauthorizedJoinRequestBehavior
  let protMask := mccOmciProtMask verOpt policy.igmpVersion
  if protMask.getLsbD ver = false then ⟨[], 0, passUnauth, 0⟩
  else if policy.dynamicAclTable = [] then
    ⟨[⟨mccIpAny, 0, false, false⟩], svid, passUnauth, protMask⟩
  else
    ⟨daclSources da policy.dynamicAclTable, daclVid da policy.dynamicAclTable, passUnauth,
      protMask⟩

/-- The second loop of `mcc_src_list_clean`, where the entries with an address in `seen` were
deleted. The next entry is remembered before the duplicates are deleted: where it is one of
them, the loop goes on from freed memory. -/
def mccSrcListUnique (seen : List MccIpAddr) : List MccSrcEntry → Option (List MccSrcEntry)
  | [] => some []
  | e :: rest =>
      if e.sa ∈ seen then mccSrcListUnique seen rest
      else if (rest.find? (·.sa ∉ seen)).any (·.sa = e.sa) then none
      else (mccSrcListUnique (e.sa :: seen) rest).map (e :: ·)

/-- The first loop of `mcc_src_list_clean`. -/
def mccSrcListCollapse (list : List MccSrcEntry) : List MccSrcEntry :=
  if (mccSrcFind list mccIpAny).isSome then list.filter (·.sa = mccIpAny) else list

theorem mem_addrs_cons {sa : MccIpAddr} {e : MccSrcEntry} {list : List MccSrcEntry} :
    sa ∈ addrs (e :: list) ↔ sa = e.sa ∨ sa ∈ addrs list :=
  List.mem_cons

/-- The entries that are left have different addresses, and none that was seen. -/
theorem nodup_mccSrcListUnique {seen : List MccIpAddr} {list kept : List MccSrcEntry}
    (hkept : mccSrcListUnique seen list = some kept) :
    (addrs kept).Nodup ∧ ∀ sa, sa ∈ addrs kept ↔ sa ∈ addrs list ∧ sa ∉ seen := by
  induction list generalizing seen kept with
  | nil =>
      obtain rfl : [] = kept := Option.some.inj hkept
      exact ⟨List.nodup_nil, fun sa => by simp⟩
  | cons e rest ih =>
      rw [mccSrcListUnique] at hkept
      split at hkept
      · rename_i hseen
        have ⟨hnodup, hmem⟩ := ih hkept
        have hiff : ∀ sa, sa ∈ addrs kept ↔ sa ∈ addrs (e :: rest) ∧ sa ∉ seen := by
          intro sa
          rw [hmem, mem_addrs_cons]
          constructor
          · exact fun h => ⟨Or.inr h.1, h.2⟩
          · rintro ⟨rfl | hrest, hnew⟩
            · exact absurd hseen hnew
            · exact ⟨hrest, hnew⟩
        exact ⟨hnodup, hiff⟩
      · rename_i hnew
        split at hkept
        · cases hkept
        · have ⟨more, hmore, hcons⟩ := Option.map_eq_some_iff.mp hkept
          have ⟨hnodup, hmem⟩ := ih hmore
          rw [← hcons]
          have hout : e.sa ∉ addrs more := fun hin => ((hmem _).mp hin).2 List.mem_cons_self
          have hiff : ∀ sa, sa ∈ addrs (e :: more) ↔ sa ∈ addrs (e :: rest) ∧ sa ∉ seen := by
            intro sa
            rw [mem_addrs_cons, mem_addrs_cons, hmem, List.mem_cons]
            by_cases hsa : sa = e.sa
            · exact iff_of_true (Or.inl hsa) ⟨Or.inl hsa, hsa ▸ hnew⟩
            · simp [hsa]
          exact ⟨List.nodup_cons.mpr ⟨hout, hnodup⟩, hiff⟩

/-- `mcc_src_list_clean`; `none` if it reads freed memory. -/
def mccSrcListClean (list : List MccSrcEntry) : Option MccSrcList :=
  match hkept : mccSrcListUnique [] (mccSrcListCollapse list) with
  | none => none
  | some kept => some ⟨kept, (nodup_mccSrcListUnique hkept).1⟩

/-- `mcc_omci_flw_wlist_get`. -/
def mccOmciFlwWlistGet (policy : MulticastOperationsProfile) (svid : BitVec 16) (version : Nat)
    (da : MccIpAddr) : Option MccOmciWlist :=
  let wlist := mccOmciPolicyWlistGet policy svid version .iop0 da
  (mccSrcListClean wlist.srcList).map fun srcList =>
    ⟨srcList, wlist.vid, wlist.passUnauth, wlist.supportedProtMask⟩

/-! ## What is requested and what is allowed -/

def MccRec.requested (rec : MccRec) : Set MccIpAddr :=
  if rec.fmode = some .excl then (sources rec.srcList.entries)ᶜ
  else {sa | sa ∈ addrs rec.srcList.entries}

def aclCovers (dacl : AclRow) (da : MccIpAddr) : Prop :=
  dacl.entry.destStartIp ≤ mccIpv4 da ∧ mccIpv4 da ≤ dacl.entry.destEndIp

def aclAllows (dacl : AclRow) (da sa : MccIpAddr) : Prop :=
  mccIsIpv6 da = false ∧ aclCovers dacl da ∧
    (dacl.entry.sourceIp = 0 ∨ aclSource dacl = sa)

def MulticastOperationsProfile.allowed (policy : MulticastOperationsProfile) (da : MccIpAddr) :
    Set MccIpAddr :=
  {sa | policy.dynamicAclTable = [] ∨ ∃ dacl ∈ policy.dynamicAclTable, aclAllows dacl da sa}

def MccRec.leaves (rec : MccRec) : Prop :=
  rec.fmode = some .incl ∧ rec.srcList.entries = []

/-- An entry is followed by one with its address, once the duplicates of what comes before and of
what was seen are gone. -/
def Adjoins (seen : List MccIpAddr) (list : List MccSrcEntry) : Prop :=
  ∃ before e between other after, list = before ++ e :: (between ++ other :: after) ∧
    other.sa = e.sa ∧ e.sa ∉ seen ++ addrs before ∧
    ∀ entry ∈ between, entry.sa ∈ seen ++ addrs before

/-- What a restriction to the allowed sources should make of a record: it is reported as
unauthorized exactly if nothing is left of what it asks for, and stands for what is left
otherwise. -/
structure AclLaw (allowed : Set MccIpAddr) (before after : MccRec) : Prop where
  unauth : ¬ before.leaves → (after.unauth = true ↔ before.requested ∩ allowed = ∅)
  left : after.unauth = false → after.requested = before.requested ∩ allowed

/-! ## The rows -/

section Sources

variable {seen : List MccIpAddr} {list : List MccSrcEntry} {rows : List AclRow} {da sa : MccIpAddr}

theorem Adjoins.cons {e : MccSrcEntry} {gone : List MccIpAddr} (h : Adjoins gone list)
    (hgone : ∀ sa, sa ∈ gone ↔ sa = e.sa ∨ sa ∈ seen) : Adjoins seen (e :: list) := by
  have ⟨before, entry, between, other, after, hlist, hsame, hnew, hbetween⟩ := h
  have hmem : ∀ sa, sa ∈ seen ++ addrs (e :: before) ↔ sa ∈ gone ++ addrs before := by
    intro sa
    rw [List.mem_append, List.mem_append, mem_addrs_cons, hgone, or_left_comm, or_assoc]
  refine ⟨e :: before, entry, between, other, after, congrArg (e :: ·) hlist, hsame, ?_, ?_⟩
  · rw [hmem]
    exact hnew
  · intro entry' hentry
    rw [hmem]
    exact hbetween entry' hentry

/-- Only such lists are not cleaned. -/
theorem adjoins_of_mccSrcListUnique (hnone : mccSrcListUnique seen list = none) :
    Adjoins seen list := by
  induction list generalizing seen with
  | nil => cases hnone
  | cons e rest ih =>
      rw [mccSrcListUnique] at hnone
      split at hnone
      · rename_i hseen
        apply (ih hnone).cons
        intro sa
        constructor
        · exact Or.inr
        · rintro (rfl | hin)
          · exact hseen
          · exact hin
      · rename_i hnew
        split at hnone
        · rename_i hnext
          obtain ⟨other, hfind, hsame⟩ := (Option.any_eq_true _ _).mp hnext
          obtain ⟨_, between, after, hrest, hbetween⟩ := List.find?_eq_some_iff_append.mp hfind
          have hgone : ∀ entry ∈ between, entry.sa ∈ seen ++ addrs [] := by
            intro entry hentry
            simpa using hbetween entry hentry
          exact ⟨[], e, between, other, after, congrArg (e :: ·) hrest, by simpa using hsame,
            by simpa using hnew, hgone⟩
        · exact (ih (Option.map_eq_none_iff.mp hnone)).cons fun sa => List.mem_cons

variable {dacl : AclRow}

theorem daclIpv4Match_eq_none : daclIpv4Match dacl da = none ↔ ¬ aclCovers dacl da := by
  unfold daclIpv4Match aclCovers
  split
  · rename_i hout
    simp only [true_iff]
    bv_omega
  · rename_i hin
    simp only [reduceCtorEq, false_iff]
    bv_omega

theorem mccIpv4_aclSource (dacl : AclRow) : mccIpv4 (aclSource dacl) = dacl.entry.sourceIp :=
  BitVec.extractLsb'_append_eq_left

theorem aclSource_eq_any : aclSource dacl = mccIpAny ↔ dacl.entry.sourceIp = 0 := by
  constructor
  · intro hany
    rw [← mccIpv4_aclSource, hany]
    rfl
  · intro hzero
    rw [aclSource, hzero]
    rfl

theorem daclIpv4Match_of_aclCovers (hcovers : aclCovers dacl da) :
    daclIpv4Match dacl da = some (aclSource dacl, decide (dacl.entry.sourceIp = 0)) := by
  have hin : ¬ (mccIpv4 da < dacl.entry.destStartIp ∨ dacl.entry.destEndIp < mccIpv4 da) := by
    have ⟨hstart, hend⟩ := hcovers
    bv_omega
  rw [daclIpv4Match, if_neg hin]

theorem daclSources_of_covers (hcovers : aclCovers dacl da) :
    daclSources da (dacl :: rows) =
      ⟨aclSource dacl, dacl.entry.groupBandwidth, false, false⟩ ::
        if dacl.entry.sourceIp = 0 then [] else daclSources da rows := by
  rw [daclSources, daclIpv4Match_of_aclCovers hcovers]
  simp only [decide_eq_true_eq]

theorem mem_addrs_daclSources_of_covers (hcovers : aclCovers dacl da) :
    sa ∈ addrs (daclSources da (dacl :: rows)) ↔
      sa = aclSource dacl ∨ dacl.entry.sourceIp ≠ 0 ∧ sa ∈ addrs (daclSources da rows) := by
  rw [daclSources_of_covers hcovers, mem_addrs_cons]
  split
  · rename_i hzero
    simp [hzero]
  · rename_i hsome
    rw [and_iff_right hsome]

theorem daclSources_of_not_covers (hcovers : ¬ aclCovers dacl da) :
    daclSources da (dacl :: rows) = daclSources da rows := by
  rw [daclSources, daclIpv4Match_eq_none.mpr hcovers]

theorem mem_addrs_daclSources (hnone : ∀ dacl ∈ rows, aclCovers dacl da → dacl.entry.sourceIp ≠ 0) :
    sa ∈ addrs (daclSources da rows) ↔ ∃ dacl ∈ rows, aclCovers dacl da ∧ sa = aclSource dacl := by
  induction rows with
  | nil => simp [daclSources]
  | cons dacl rest ih =>
      have hrest := ih fun other hother => hnone other (List.mem_cons_of_mem _ hother)
      rw [List.exists_mem_cons_iff, ← hrest]
      by_cases hcovers : aclCovers dacl da
      · have hsome := hnone dacl List.mem_cons_self hcovers
        rw [mem_addrs_daclSources_of_covers hcovers, and_iff_right hsome, and_iff_right hcovers]
      · rw [daclSources_of_not_covers hcovers]
        exact (or_iff_right fun h => hcovers h.1).symm

theorem any_mem_addrs_daclSources : mccIpAny ∈ addrs (daclSources da rows) ↔
    ∃ dacl ∈ rows, aclCovers dacl da ∧ dacl.entry.sourceIp = 0 := by
  induction rows with
  | nil => simp [daclSources]
  | cons dacl rest ih =>
      rw [List.exists_mem_cons_iff, ← ih]
      by_cases hcovers : aclCovers dacl da
      · rw [mem_addrs_daclSources_of_covers hcovers, and_iff_right hcovers, eq_comm,
          aclSource_eq_any]
        tauto
      · rw [daclSources_of_not_covers hcovers]
        exact (or_iff_right fun h => hcovers h.1).symm

/-! ## The white list -/

/-- The list stands for the allowed sources; the dummy entry stands for all. -/
structure Grants (list : List MccSrcEntry) (allowed : Set MccIpAddr) : Prop where
  any : mccIpAny ∈ addrs list → allowed = Set.univ
  listed : mccIpAny ∉ addrs list → ∀ sa, sa ∈ addrs list ↔ sa ∈ allowed

variable {policy : MulticastOperationsProfile}

/-- What the rows grant, where a group that they cover is no IPv6 group. -/
theorem grants_daclSources (hrows : policy.dynamicAclTable ≠ [])
    (hipv6 : mccIsIpv6 da = true → ∀ dacl ∈ policy.dynamicAclTable, ¬ aclCovers dacl da) :
    Grants (daclSources da policy.dynamicAclTable) (policy.allowed da) := by
  have hipv4 : ∀ dacl ∈ policy.dynamicAclTable, aclCovers dacl da → mccIsIpv6 da = false := by
    intro dacl hdacl hcovers
    by_contra hnot
    exact hipv6 (by simpa using hnot) dacl hdacl hcovers
  constructor
  · intro hany
    have ⟨dacl, hdacl, hcovers, hzero⟩ := any_mem_addrs_daclSources.mp hany
    apply Set.eq_univ_of_forall
    intro sa
    exact Or.inr ⟨dacl, hdacl, hipv4 dacl hdacl hcovers, hcovers, Or.inl hzero⟩
  · intro hany sa
    have hnone : ∀ dacl ∈ policy.dynamicAclTable, aclCovers dacl da → dacl.entry.sourceIp ≠ 0 :=
      fun dacl hdacl hcovers hzero =>
        hany (any_mem_addrs_daclSources.mpr ⟨dacl, hdacl, hcovers, hzero⟩)
    rw [mem_addrs_daclSources hnone]
    constructor
    · rintro ⟨dacl, hdacl, hcovers, hsource⟩
      exact Or.inr ⟨dacl, hdacl, hipv4 dacl hdacl hcovers, hcovers, Or.inr hsource.symm⟩
    · rintro (hempty | ⟨dacl, hdacl, _, hcovers, hzero | hsource⟩)
      · exact absurd hempty hrows
      · exact absurd hzero (hnone dacl hdacl hcovers)
      · exact ⟨dacl, hdacl, hcovers, hsource.symm⟩

/-- Cleaning changes nothing of that. -/
theorem Grants.clean {allowed : Set MccIpAddr} (h : Grants list allowed) {kept : MccSrcList}
    (hclean : mccSrcListClean list = some kept) : Grants kept.entries allowed := by
  have hkept : mccSrcListUnique [] (mccSrcListCollapse list) = some kept.entries := by
    unfold mccSrcListClean at hclean
    split at hclean
    · cases hclean
    · rename_i hsome
      obtain rfl := Option.some.inj hclean
      exact hsome
  have hmem : ∀ sa, sa ∈ addrs kept.entries ↔ sa ∈ addrs (mccSrcListCollapse list) := by
    intro sa
    rw [(nodup_mccSrcListUnique hkept).2]
    exact and_iff_left List.not_mem_nil
  have hfind : (mccSrcFind list mccIpAny).isSome = true ↔ mccIpAny ∈ addrs list := by
    simp [mccSrcFind, List.find?_isSome]
  by_cases hany : mccIpAny ∈ addrs list
  · have hcollapse : mccSrcListCollapse list = list.filter (·.sa = mccIpAny) :=
      if_pos (hfind.mpr hany)
    have hin : mccIpAny ∈ addrs kept.entries := by
      rw [hmem, hcollapse]
      have ⟨e, he, hsa⟩ := List.mem_map.mp hany
      exact List.mem_map.mpr ⟨e, List.mem_filter.mpr ⟨he, by simpa using hsa⟩, hsa⟩
    exact ⟨fun _ => h.any hany, fun hnot => absurd hin hnot⟩
  · have hcollapse : mccSrcListCollapse list = list :=
      if_neg fun hsome => hany (hfind.mp hsome)
    rw [hcollapse] at hmem
    have hout : mccIpAny ∉ addrs kept.entries := fun hin => hany ((hmem _).mp hin)
    exact ⟨fun hin => absurd hin hout, fun _ sa => (hmem sa).trans (h.listed hany sa)⟩

/-! ## Records -/

theorem addrs_map (list : MccSrcList) {f : MccSrcEntry → MccSrcEntry} (hf : ∀ e, (f e).sa = e.sa) :
    addrs (list.map f hf).entries = addrs list.entries := by
  rw [addrs, MccSrcList.map, List.map_map]
  exact List.map_congr_left fun e _ => hf e

theorem mem_addrs_filterList (list : MccSrcList) (keep : MccIpAddr → Bool) :
    sa ∈ addrs (list.filter fun e => keep e.sa).entries ↔
      sa ∈ addrs list.entries ∧ keep sa = true :=
  mem_addrs_filter keep

variable {rec : MccRec}

theorem mem_requested_of_excl (hexcl : rec.fmode = some .excl) :
    sa ∈ rec.requested ↔ ¬ (sa ∈ addrs rec.srcList.entries ∧ sa ≠ mccIpAny) := by
  rw [MccRec.requested, if_pos hexcl]
  exact Iff.rfl

theorem mem_requested_of_ne_excl (hexcl : rec.fmode ≠ some .excl) :
    sa ∈ rec.requested ↔ sa ∈ addrs rec.srcList.entries := by
  rw [MccRec.requested, if_neg hexcl]
  exact Iff.rfl

theorem requested_apply_any {wlist : MccSrcList}
    (hany : mccIpAny ∈ addrs wlist.entries) (hrec : rec.srcList.entries ≠ []) :
    (mccRecWlistApply wlist rec).requested = rec.requested := by
  have hwlist : wlist.entries ≠ [] := exists_mem_addrs.mp ⟨_, hany⟩
  have hsome : (mccSrcFind wlist.entries mccIpAny).isSome := by
    simpa [mccSrcFind, List.find?_isSome] using hany
  have ⟨src, hfind⟩ := Option.isSome_iff_exists.mp hsome
  rw [mccRecWlistApply, if_neg (not_or.mpr ⟨hrec, hwlist⟩), hfind]
  simp only [MccRec.requested, sources, addrs_map]

/-- Without one it keeps the sources that are listed. -/
theorem requested_apply_listed {wlist : MccSrcList}
    (hany : mccIpAny ∉ addrs wlist.entries) (hwlist : wlist.entries ≠ [])
    (hrec : rec.srcList.entries ≠ []) :
    (mccRecWlistApply wlist rec).requested = rec.requested ∩ {sa | sa ∈ addrs wlist.entries} := by
  have hfind : mccSrcFind wlist.entries mccIpAny = none := by
    apply List.find?_eq_none.mpr
    intro e he hsa
    exact hany (List.mem_map.mpr ⟨e, he, by simpa using hsa⟩)
  rw [mccRecWlistApply, if_neg (not_or.mpr ⟨hrec, hwlist⟩), hfind]
  ext sa
  rw [Set.mem_inter_iff, Set.mem_ofPred_eq]
  by_cases hexcl : rec.fmode = some .excl
  · have hnot : sa ∈ addrs wlist.entries → sa ≠ mccIpAny := fun hin heq => hany (heq ▸ hin)
    rw [mem_requested_of_excl hexcl]
    simp only [if_pos hexcl]
    rw [mem_requested_of_ne_excl (by simp), addrs_map,
      mem_addrs_filterList wlist fun sa => sa ∉ addrs rec.srcList.entries]
    simp only [decide_eq_true_eq]
    tauto
  · rw [mem_requested_of_ne_excl hexcl]
    simp only [if_neg hexcl]
    rw [mem_requested_of_ne_excl, addrs_map,
      mem_addrs_filterList rec.srcList fun sa => sa ∈ addrs wlist.entries]
    · simp only [decide_eq_true_eq]
    · exact hexcl

theorem requested_mccRecWlistApply {wlist : MccSrcList} {allowed : Set MccIpAddr}
    (h : Grants wlist.entries allowed) (hwlist : wlist.entries ≠ [])
    (hrec : rec.srcList.entries ≠ []) :
    (mccRecWlistApply wlist rec).requested = rec.requested ∩ allowed := by
  by_cases hany : mccIpAny ∈ addrs wlist.entries
  · rw [h.any hany, Set.inter_univ]
    exact requested_apply_any hany hrec
  · rw [requested_apply_listed hany hwlist hrec]
    have hlisted : {sa | sa ∈ addrs wlist.entries} = allowed := Set.ext (h.listed hany)
    rw [hlisted]

theorem requested_eq_empty :
    rec.requested = ∅ ↔ rec.fmode ≠ some .excl ∧ rec.srcList.entries = [] := by
  by_cases hexcl : rec.fmode = some .excl
  · have hany : mccIpAny ∈ rec.requested := by
      rw [mem_requested_of_excl hexcl]
      exact fun h => h.2 rfl
    exact iff_of_false (Set.nonempty_iff_ne_empty.mp ⟨_, hany⟩) fun h => h.1 hexcl
  · rw [and_iff_right hexcl, Set.eq_empty_iff_forall_notMem]
    simp only [mem_requested_of_ne_excl hexcl]
    rw [← not_exists, exists_mem_addrs, not_not]

/-- A record that still excludes sources has some in its list. -/
theorem entries_ne_nil_of_excl {wlist : MccSrcList} (hrec : rec.srcList.entries ≠ [])
    (hexcl : (mccRecWlistApply wlist rec).fmode = some .excl) :
    (mccRecWlistApply wlist rec).srcList.entries ≠ [] := by
  unfold mccRecWlistApply at hexcl ⊢
  split
  · exact hrec
  · rename_i hne
    rw [if_neg hne] at hexcl
    split at hexcl
    · exact fun hnil => hrec (List.map_eq_nil_iff.mp hnil)
    · split at hexcl
      · cases hexcl
      · rename_i hnot
        exact absurd hexcl hnot

/-! ## The restriction -/

theorem mccRecRestrict_of_version {limits : MccLimits} {wlist : MccOmciWlist} {port : MccPort}
    (hversion : wlist.supportedProtMask.getLsbD rec.version = false) :
    mccRecRestrict limits wlist port rec = (port, { rec with discard := true }) := by
  rw [mccRecRestrict, if_pos hversion]

/-- What the restriction makes of the others. -/
inductive Restricted (wlist : MccOmciWlist) (rec after : MccRec) : Prop
  | uncovered (hnil : wlist.srcList.entries = []) (hunauth : after.unauth = true)
  | rejected (hne : wlist.srcList.entries ≠ [])
      (hnil : (mccRecWlistApply wlist.srcList rec).srcList.entries = [])
      (hunauth : after.unauth = true)
  | accepted (hne : wlist.srcList.entries ≠ [])
      (hleft : (mccRecWlistApply wlist.srcList rec).srcList.entries ≠ [])
      (hunauth : after.unauth = (mccRecWlistApply wlist.srcList rec).unauth)
      (hrequested : after.requested = (mccRecWlistApply wlist.srcList rec).requested)

variable {limits : MccLimits} {wlist : MccOmciWlist} {port : MccPort}

theorem mccRecRestrict_cases (limits : MccLimits) (port : MccPort)
    (hversion : wlist.supportedProtMask.getLsbD rec.version = true) (hleaves : ¬ rec.leaves) :
    Restricted wlist rec (mccRecRestrict limits wlist port rec).2 := by
  have hbit : ¬ wlist.supportedProtMask.getLsbD rec.version = false := by simp [hversion]
  have hsome : ¬ (rec.fmode = some .incl ∧ rec.srcList.entries = []) := hleaves
  rw [mccRecRestrict, if_neg hbit, if_neg hsome]
  split
  · rename_i hnil
    exact .uncovered hnil rfl
  · rename_i hne
    simp only
    split
    · rename_i hnil
      exact .rejected hne hnil rfl
    · rename_i hleft
      split
      · exact .accepted hne hleft rfl rfl
      · split
        · exact .accepted hne hleft rfl rfl
        -- the limits of the port leave the sources alone
        · exact .accepted hne hleft rfl rfl

theorem unauth_mccRecWlistApply (wlist : MccSrcList) (rec : MccRec) :
    (mccRecWlistApply wlist rec).unauth = rec.unauth := by
  unfold mccRecWlistApply
  split
  · rfl
  · split
    · rfl
    · split
      · rfl
      · rfl

theorem mccRecRestrict_of_leaves (hversion : wlist.supportedProtMask.getLsbD rec.version = true)
    (hleaves : rec.leaves) : mccRecRestrict limits wlist port rec = (port, rec) := by
  have hbit : ¬ wlist.supportedProtMask.getLsbD rec.version = false := by simp [hversion]
  have hnone : rec.fmode = some .incl ∧ rec.srcList.entries = [] := hleaves
  rw [mccRecRestrict, if_neg hbit, if_pos hnone]

/-- The restriction keeps the law if the white list grants what is allowed. -/
theorem aclLaw_mccRecRestrict {allowed : Set MccIpAddr} (limits : MccLimits) (port : MccPort)
    (hgrants : Grants wlist.srcList.entries allowed)
    (hversion : wlist.supportedProtMask.getLsbD rec.version = true)
    (hunauth : rec.unauth = false) (hrec : ¬ rec.leaves → rec.srcList.entries ≠ []) :
    AclLaw allowed rec (mccRecRestrict limits wlist port rec).2 := by
  by_cases hleaves : rec.leaves
  · have hnone : rec.requested = ∅ :=
      requested_eq_empty.mpr ⟨fun hexcl => by simp [hleaves.1] at hexcl, hleaves.2⟩
    rw [mccRecRestrict_of_leaves hversion hleaves]
    exact ⟨fun hnot => absurd hleaves hnot, fun _ => by rw [hnone, Set.empty_inter]⟩
  · have hsome := hrec hleaves
    cases mccRecRestrict_cases limits port hversion hleaves with
    | uncovered hnil hafter =>
        have hnone : allowed = ∅ := by
          have hlisted := hgrants.listed (by simp [hnil])
          rw [Set.eq_empty_iff_forall_notMem]
          intro sa hsa
          have hin := (hlisted sa).mpr hsa
          rw [hnil] at hin
          cases hin
        have hinter : rec.requested ∩ allowed = ∅ := by rw [hnone, Set.inter_empty]
        exact ⟨fun _ => iff_of_true hafter hinter, fun hnot => absurd hafter (by simp [hnot])⟩
    | rejected hne hnil hafter =>
        have hinter : rec.requested ∩ allowed = ∅ := by
          rw [← requested_mccRecWlistApply hgrants hne hsome, requested_eq_empty]
          exact ⟨fun hexcl => entries_ne_nil_of_excl hsome hexcl hnil, hnil⟩
        exact ⟨fun _ => iff_of_true hafter hinter, fun hnot => absurd hafter (by simp [hnot])⟩
    | accepted hne hleft hafter hrequested =>
        rw [requested_mccRecWlistApply hgrants hne hsome] at hrequested
        rw [unauth_mccRecWlistApply, hunauth] at hafter
        have hinter : rec.requested ∩ allowed ≠ ∅ := by
          rw [← requested_mccRecWlistApply hgrants hne hsome]
          exact fun hempty => hleft (requested_eq_empty.mp hempty).2
        exact ⟨fun _ => iff_of_false (by simp [hafter]) hinter, fun _ => hrequested⟩

theorem fmode_of_mccRecModes_nil {recType : MccProtRecType}
    {modes : Option FilterMode × Option MccSrcMode} (hmodes : mccRecModes recType [] = some modes) :
    modes.1 = some .incl ∨ modes.1 = some .excl := by
  cases recType with
  | isInclude | changeToInclude => exact Or.inl (congrArg Prod.fst (Option.some.inj hmodes)).symm
  | isExclude | changeToExclude => exact Or.inr (congrArg Prod.fst (Option.some.inj hmodes)).symm
  | allowNewSources => cases hmodes
  | blockOldSources => cases hmodes

theorem mccRecGet_spec {pkt : MccPktRec} (hrec : mccRecGet pkt = some rec) :
    rec.version = pkt.version ∧ rec.unauth = false ∧ (¬ rec.leaves → rec.srcList.entries ≠ []) := by
  have ⟨modes, hmodes, hmade⟩ := Option.map_eq_some_iff.mp hrec
  rw [← hmade]
  refine ⟨rfl, rfl, ?_⟩
  intro hleaves hnil
  have ⟨hexcl, hsas⟩ := not_or.mp (mt mccRecSources_ne_nil.mpr (not_not.mpr hnil))
  rw [not_not.mp hsas] at hmodes
  exact hleaves ⟨(fmode_of_mccRecModes_nil hmodes).resolve_right hexcl, hnil⟩

/-! ## The law -/

/-- Two rows with one source match the group, one after the other once the rows are left out whose
source an earlier one has, and none matches any source. -/
def Repeats (da : MccIpAddr) (rows : List AclRow) : Prop :=
  Adjoins [] (daclSources da rows) ∧ mccIpAny ∉ addrs (daclSources da rows)

/-- Any source comes last. -/
theorem filter_any_daclSources (da : MccIpAddr) (rows : List AclRow) :
    (daclSources da rows).filter (·.sa = mccIpAny) = [] ∨
      ∃ e, (daclSources da rows).filter (·.sa = mccIpAny) = [e] := by
  induction rows with
  | nil => exact Or.inl rfl
  | cons dacl rest ih =>
      by_cases hcovers : aclCovers dacl da
      · rw [daclSources_of_covers hcovers]
        split
        · rename_i hzero
          exact Or.inr ⟨_, List.filter_cons_of_pos (by simpa using aclSource_eq_any.mpr hzero)⟩
        · rename_i hsome
          have hne : aclSource dacl ≠ mccIpAny := fun hany => hsome (aclSource_eq_any.mp hany)
          rw [List.filter_cons_of_neg (by simpa using hne)]
          exact ih
      · rw [daclSources_of_not_covers hcovers]
        exact ih

/-- The sources of the rows are cleaned, unless they repeat. -/
theorem exists_mccSrcListClean (hrepeats : ¬ Repeats da rows) :
    ∃ kept, mccSrcListClean (daclSources da rows) = some kept := by
  have hunique : mccSrcListUnique [] (mccSrcListCollapse (daclSources da rows)) ≠ none := by
    intro hnone
    rw [mccSrcListCollapse] at hnone
    split at hnone
    · rcases filter_any_daclSources da rows with hnil | ⟨e, hone⟩
      · rw [hnil] at hnone
        cases hnone
      · rw [hone] at hnone
        cases hnone
    · rename_i hany
      have hout : mccIpAny ∉ addrs (daclSources da rows) := by
        simpa [mccSrcFind, List.find?_isSome] using hany
      exact hrepeats ⟨adjoins_of_mccSrcListUnique hnone, hout⟩
  have ⟨kept, hkept⟩ := Option.ne_none_iff_exists'.mp hunique
  unfold mccSrcListClean
  split
  · rename_i hnone
    exact absurd hnone hunique
  · exact ⟨_, rfl⟩

theorem mccOmciPolicyWlistGet_of_version (svid : BitVec 16) {version : Nat}
    (hversion : (mccOmciProtMask .iop0 policy.igmpVersion).getLsbD version = true) :
    mccOmciPolicyWlistGet policy svid version .iop0 da =
      if policy.dynamicAclTable = [] then
        ⟨[⟨mccIpAny, 0, false, false⟩], svid, policy.unauthorizedJoinRequestBehavior,
          mccOmciProtMask .iop0 policy.igmpVersion⟩
      else
        ⟨daclSources da policy.dynamicAclTable, daclVid da policy.dynamicAclTable,
          policy.unauthorizedJoinRequestBehavior, mccOmciProtMask .iop0 policy.igmpVersion⟩ := by
  rw [mccOmciPolicyWlistGet, if_neg (by simp [hversion])]

/-- The white list of a profile grants what the profile allows. -/
theorem exists_mccOmciFlwWlistGet (svid : BitVec 16)
    {version : Nat} (hversion : (mccOmciProtMask .iop0 policy.igmpVersion).getLsbD version = true)
    (hipv6 : mccIsIpv6 da = true → ∀ dacl ∈ policy.dynamicAclTable, ¬ aclCovers dacl da)
    (hrepeats : ¬ Repeats da policy.dynamicAclTable) :
    ∃ wlist, mccOmciFlwWlistGet policy svid version da = some wlist ∧
      wlist.supportedProtMask = mccOmciProtMask .iop0 policy.igmpVersion ∧
      Grants wlist.srcList.entries (policy.allowed da) := by
  unfold mccOmciFlwWlistGet
  rw [mccOmciPolicyWlistGet_of_version svid hversion]
  split
  · rename_i hrows
    have hall : policy.allowed da = Set.univ := Set.eq_univ_of_forall fun _ => Or.inl hrows
    have hgrants : Grants [⟨mccIpAny, 0, false, false⟩] (policy.allowed da) :=
      ⟨fun _ => hall, fun hnot => absurd List.mem_cons_self hnot⟩
    exact ⟨_, rfl, rfl, hgrants⟩
  · rename_i hrows
    have ⟨kept, hkept⟩ := exists_mccSrcListClean hrepeats
    have hgrants := (grants_daclSources hrows hipv6).clean hkept
    simp only [hkept]
    exact ⟨_, rfl, rfl, hgrants⟩

end Sources

/-- A record of a version that the profile does not admit is discarded. Of any other one the
restriction leaves what it asks for and a row allows, and reports it as unauthorized exactly if
that is nothing and the record does not leave the group; a profile without rows allows all.
Left out are IPv6 groups whose first four bytes a row covers, and tables with a repetition. -/
theorem mccRecRestrict_law (policy : MulticastOperationsProfile) (limits : MccLimits)
    (port : MccPort) (svid : BitVec 16) (flwId : BitVec 8) {pkt : MccPktRec} {rec : MccRec}
    (hrec : mccRecGet pkt = some rec)
    (hipv6 : mccIsIpv6 pkt.ga = true → ∀ dacl ∈ policy.dynamicAclTable, ¬ aclCovers dacl pkt.ga)
    (hrepeats : ¬ Repeats pkt.ga policy.dynamicAclTable) :
    ∃ wlist, mccOmciFlwWlistGet policy svid pkt.version pkt.ga = some wlist ∧
      if (mccOmciProtMask .iop0 policy.igmpVersion).getLsbD pkt.version then
        AclLaw (policy.allowed pkt.ga) { rec with flwId }
          (mccRecRestrict limits wlist port { rec with flwId }).2
      else (mccRecRestrict limits wlist port { rec with flwId }).2 =
        { rec with flwId, discard := true } := by
  have ⟨hversion, hunauth, hsome⟩ := mccRecGet_spec hrec
  split
  · rename_i hbit
    have ⟨wlist, hwlist, hmask, hgrants⟩ := exists_mccOmciFlwWlistGet svid hbit hipv6 hrepeats
    refine ⟨wlist, hwlist, aclLaw_mccRecRestrict limits port ?_ ?_ hunauth hsome⟩
    · exact hgrants
    · rw [hmask]
      exact hversion ▸ hbit
  · rename_i hbit
    refine ⟨⟨.empty, 0, policy.unauthorizedJoinRequestBehavior, 0⟩, ?_, ?_⟩
    · rw [mccOmciFlwWlistGet, mccOmciPolicyWlistGet, if_pos (by simpa using hbit)]
      rfl
    · rw [mccRecRestrict_of_version (by simp)]

def aclJoin (version : Nat) (ga : MccIpAddr) : MccPktRec :=
  ⟨version, 0, 0, 0, ga, 0, .changeToExclude, []⟩

def aclJoinRec (version : Nat) (ga : MccIpAddr) : MccRec :=
  ⟨false, false, false, version, 0, 0, 0, 0, ga, 0, mccRecSources (some .excl) [], some .excl, none⟩

def aclProfile (rows : List AclRow) : MulticastOperationsProfile :=
  ⟨3, false, rows⟩

def aclRow (index : BitVec 16) (sourceIp destEndIp : BitVec 32) : AclRow :=
  ⟨index, ⟨0, 0, sourceIp, 0xe0000000, destEndIp, 0⟩, 0⟩

def aclGroup : MccIpAddr := 0xef010101#32 ++ 0#96

def aclLimits : MccLimits := ⟨0, 0, false⟩

def aclPort : MccPort := ⟨[], 0, 0⟩

/-- The join of an allowed group. -/
theorem mccRecRestrict_law_join :
    ∃ wlist, mccOmciFlwWlistGet (aclProfile [aclRow 1 0 0xefffffff]) 0 3 aclGroup =
        some wlist ∧
      if (mccOmciProtMask .iop0 3).getLsbD 3 then
        AclLaw ((aclProfile [aclRow 1 0 0xefffffff]).allowed aclGroup) (aclJoinRec 3 aclGroup)
          (mccRecRestrict aclLimits wlist aclPort (aclJoinRec 3 aclGroup)).2
      else (mccRecRestrict aclLimits wlist aclPort (aclJoinRec 3 aclGroup)).2 =
        { aclJoinRec 3 aclGroup with discard := true } :=
  have hrec : mccRecGet (aclJoin 3 aclGroup) = some (aclJoinRec 3 aclGroup) := rfl
  have hipv4 : ¬ mccIsIpv6 aclGroup = true := by decide
  have hany : mccIpAny ∈ addrs (daclSources aclGroup [aclRow 1 0 0xefffffff]) := by decide
  mccRecRestrict_law (aclProfile [aclRow 1 0 0xefffffff]) aclLimits aclPort 0 0 hrec
    (fun hipv6 => absurd hipv6 hipv4) fun hrepeats => hrepeats.2 hany

def aclWide : AclRow := aclRow 1 0 0xffffffff

def aclIpv6 : MccIpAddr := 0xff05#16 ++ 1#112

/-- Without rows all is allowed, though no row allows it. A row of IPv4 addresses authorizes an
IPv6 group, and of two rows with one source the white list cannot be cleaned. -/
theorem mccRecRestrict_not_law :
    (¬ ∀ (policy : MulticastOperationsProfile) (limits : MccLimits) (port : MccPort)
      (svid : BitVec 16) (pkt : MccPktRec) (rec : MccRec), mccRecGet pkt = some rec →
      (mccOmciProtMask .iop0 policy.igmpVersion).getLsbD pkt.version = true →
      ∃ wlist, mccOmciFlwWlistGet policy svid pkt.version pkt.ga = some wlist ∧
        AclLaw {sa | ∃ dacl ∈ policy.dynamicAclTable, aclAllows dacl pkt.ga sa} rec
          (mccRecRestrict limits wlist port rec).2) ∧
    (∃ wlist, mccOmciFlwWlistGet (aclProfile [aclWide]) 0 17 aclIpv6 = some wlist ∧
      (mccRecRestrict aclLimits wlist aclPort (aclJoinRec 17 aclIpv6)).2.unauth =
        false ∧ mccIsIpv6 aclIpv6 = true) ∧
    mccOmciFlwWlistGet
      (aclProfile [aclRow 1 0x0a000001 0xefffffff, aclRow 2 0x0a000001 0xefffffff]) 0 3
      aclGroup = none := by
  refine ⟨?_, ⟨_, rfl, by decide, by decide⟩, by decide⟩
  intro hall
  have ⟨wlist, hwlist, hlaw⟩ := hall (aclProfile []) aclLimits aclPort 0
    (aclJoin 3 aclGroup) (aclJoinRec 3 aclGroup) rfl (by decide)
  have hfree : (mccOmciFlwWlistGet (aclProfile []) 0 3 aclGroup).map (fun wlist =>
      (mccRecRestrict aclLimits wlist aclPort (aclJoinRec 3 aclGroup)).2.unauth) =
        some false := by
    decide
  have hleaves : ¬ (aclJoinRec 3 aclGroup).leaves := fun h => by cases h.1
  have hnone : {sa | ∃ dacl ∈ (aclProfile []).dynamicAclTable, aclAllows dacl aclGroup sa} =
      ∅ := by
    simp [aclProfile]
  have hunauth := (hlaw.unauth hleaves).mpr
    ((congrArg (_ ∩ ·) hnone).trans (Set.inter_empty _))
  rw [show mccOmciFlwWlistGet (aclProfile []) 0 3 aclGroup = some wlist from hwlist] at hfree
  cases hunauth.symm.trans (Option.some.inj hfree)

end FalconGpon.Mcc
