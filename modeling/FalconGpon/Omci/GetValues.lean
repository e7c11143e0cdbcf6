/-
# The values in a GET response

Where reading the entity's data changes nothing and succeeds, the loop of
`get_action_handle` packs the attributes it can read one after the other, up to the room in
the response (`Packed`). The response names them in its mask and has each value at its
place there.
-/

import FalconGpon.Omci.GetAction

namespace FalconGpon.Omci

open FalconGpon.Lib

variable {ω : Type}

section Offset

variable {cls : MeClass ω} {mask : AttrMask}

def MeClass.sizeIn (cls : MeClass ω) (mask : AttrMask) (attrs : List Attr) : Nat :=
  ((attrs.filter fun attr => mask.has attr).map fun attr => (cls.attrs attr).size).sum

theorem MeClass.sizeIn_append (cls : MeClass ω) (mask : AttrMask) (first second : List Attr) :
    cls.sizeIn mask (first ++ second) = cls.sizeIn mask first + cls.sizeIn mask second := by
  simp [sizeIn]

theorem MeClass.sizeIn_singleton (cls : MeClass ω) (mask : AttrMask) (attr : Attr) :
    cls.sizeIn mask [attr] = if mask.has attr then (cls.attrs attr).size else 0 := by
  rw [sizeIn]
  split
  · rename_i hattr
    simp [hattr]
  · rename_i hattr
    simp [hattr]

theorem offsetIn_add_le {done rest : List Attr} (hsplit : done ++ rest = List.finRange 16)
    {attr : Attr} (hmem : attr ∈ done) (hattr : mask.has attr = true) :
    cls.offsetIn mask attr + (cls.attrs attr).size ≤ cls.sizeIn mask done := by
  obtain ⟨before, behind, rfl⟩ := List.append_of_mem hmem
  have hbefore : before ++ attr :: (behind ++ rest) = List.finRange 16 := by
    rw [← hsplit, List.append_assoc, List.cons_append]
  have hoffset : cls.offsetIn mask attr = cls.sizeIn mask before := offsetIn_eq_of_append hbefore
  rw [hoffset, List.append_cons, cls.sizeIn_append, cls.sizeIn_append, cls.sizeIn_singleton,
    if_pos hattr]
  omega

theorem offsetIn_congr {mask' : AttrMask} {attr : Attr}
    (h : ∀ other < attr, mask.has other = mask'.has other) :
    cls.offsetIn mask attr = cls.offsetIn mask' attr := by
  rw [MeClass.offsetIn, MeClass.offsetIn]
  congr 2
  apply List.filter_congr
  intro other _
  by_cases hother : other < attr
  · rw [h other hother]
  · simp [hother]

end Offset

/-! ## The loop -/

def TblClass.Readable (cls : TblClass ω) (attrMask : AttrMask) : Prop :=
  ∀ attr, attrMask.has attr = true →
    cls.isMeAttrExist attr = true ∧ hasProp (cls.attrs attr).prop AttrProp.rd = true

/-- What the loop has packed after some attributes. -/
structure Packed (cls : TblClass ω) (attrMask : AttrMask) (data : Buffer) (done : List Attr)
    (acc : GetAttrs) : Prop where
  mask : ∀ attr, acc.attrMaskRsp.has attr = true → attr ∈ done
  offset : acc.offset = cls.sizeIn acc.attrMaskRsp done
  offset_le_sum : acc.offset ≤ acc.attrSizeSum
  fits : acc.offset ≤ getRspValuesSize
  value : ∀ attr, acc.attrMaskRsp.has attr = true →
    slice acc.rsp.octet (3 + cls.offsetIn acc.attrMaskRsp attr) (cls.attrs attr).size =
      cls.attrValue attr data
  errors : cls.Readable attrMask → acc.attrExecMask = 0 ∧ acc.optAttrMask = 0
  sum : cls.Readable attrMask → acc.attrSizeSum = cls.sizeIn attrMask done
  complete : cls.Readable attrMask → ∀ attr ∈ done, attrMask.has attr = true →
    cls.offsetIn attrMask attr + (cls.attrs attr).size ≤ getRspValuesSize →
      acc.attrMaskRsp.has attr = true

namespace Packed

variable {cls : TblClass ω} {attrMask : AttrMask} {data : Buffer} {done rest : List Attr}
  {acc : GetAttrs} {attr : Attr}

/-- An attribute that is not in the request. -/
theorem skip (h : Packed cls attrMask data done acc) (hattr : attrMask.has attr = false)
    (hnew : attr ∉ done) : Packed cls attrMask data (done ++ [attr]) acc where
  mask other hother := List.mem_append_left _ (h.mask other hother)
  offset := by
    have hnot : ¬ acc.attrMaskRsp.has attr = true := fun hhas => hnew (h.mask attr hhas)
    rw [cls.sizeIn_append, cls.sizeIn_singleton, if_neg hnot, Nat.add_zero, h.offset]
  offset_le_sum := h.offset_le_sum
  fits := h.fits
  value := h.value
  errors := h.errors
  sum hreadable := by
    have hnot : ¬ attrMask.has attr = true := by simp [hattr]
    rw [cls.sizeIn_append, cls.sizeIn_singleton, if_neg hnot, Nat.add_zero, h.sum hreadable]
  complete hreadable other hother hhas hroom := by
    rcases List.mem_append.mp hother with hdone | hlast
    · exact h.complete hreadable other hdone hhas hroom
    · rw [List.mem_singleton.mp hlast, hattr] at hhas
      exact absurd hhas Bool.false_ne_true

/-- An attribute that cannot be read. -/
theorem refuse (h : Packed cls attrMask data done acc) (hattr : attrMask.has attr = true)
    (hnew : attr ∉ done) (hrefused : ¬ (cls.isMeAttrExist attr = true ∧
      hasProp (cls.attrs attr).prop AttrProp.rd = true)) (execMask optMask : AttrMask) :
    Packed cls attrMask data (done ++ [attr])
      { acc with attrExecMask := execMask, optAttrMask := optMask } where
  mask other hother := List.mem_append_left _ (h.mask other hother)
  offset := by
    have hnot : ¬ acc.attrMaskRsp.has attr = true := fun hhas => hnew (h.mask attr hhas)
    rw [cls.sizeIn_append, cls.sizeIn_singleton, if_neg hnot, Nat.add_zero]
    exact h.offset
  offset_le_sum := h.offset_le_sum
  fits := h.fits
  value := h.value
  errors hreadable := absurd (hreadable attr hattr) hrefused
  sum hreadable := absurd (hreadable attr hattr) hrefused
  complete hreadable := absurd (hreadable attr hattr) hrefused

/-- An attribute that is read and fits. -/
theorem read (h : Packed cls attrMask data done acc) (hattr : attrMask.has attr = true)
    (hsplit : done ++ attr :: rest = List.finRange 16)
    (hroom : acc.attrSizeSum + (cls.attrs attr).size ≤ getRspValuesSize) :
    Packed cls attrMask data (done ++ [attr])
      { acc with
        attrSizeSum := acc.attrSizeSum + (cls.attrs attr).size
        attrMaskRsp := acc.attrMaskRsp ||| omciAttr2mask attr
        offset := acc.offset + (cls.attrs attr).size
        rsp := acc.rsp.write (3 + acc.offset) (cls.attrValue attr data) } := by
  have hsorted := List.pairwise_lt_finRange 16
  rw [← hsplit] at hsorted
  obtain ⟨_, _, hdone⟩ := List.pairwise_append.mp hsorted
  have hlt : ∀ other ∈ done, other < attr := fun other hother =>
    hdone other hother attr List.mem_cons_self
  have hfits := h.offset_le_sum
  -- the new attribute comes behind all others
  have hbefore : ∀ other, other ≤ attr → ∀ earlier < other,
      AttrMask.has (acc.attrMaskRsp ||| omciAttr2mask attr) earlier =
        acc.attrMaskRsp.has earlier := by
    intro other hother earlier hearlier
    have hne : attr ≠ earlier := (lt_of_lt_of_le hearlier hother).ne'
    simp [hne]
  have hplace : ∀ other, other ≤ attr →
      cls.offsetIn (acc.attrMaskRsp ||| omciAttr2mask attr) other =
        cls.offsetIn acc.attrMaskRsp other :=
    fun other hother => offsetIn_congr (hbefore other hother)
  have hself : cls.offsetIn acc.attrMaskRsp attr = acc.offset :=
    (offsetIn_eq_of_append hsplit).trans h.offset.symm
  have hsizeIn : cls.sizeIn (acc.attrMaskRsp ||| omciAttr2mask attr) done =
      cls.sizeIn acc.attrMaskRsp done := by
    rw [MeClass.sizeIn, MeClass.sizeIn]
    congr 2
    apply List.filter_congr
    intro other hother
    simp [(hlt other hother).ne']
  simp only [getRspValuesSize] at hroom
  refine ⟨?_, ?_, ?_, ?_, ?_, h.errors, ?_, ?_⟩
  · intro other hother
    simp only [AttrMask.has_or, AttrMask.has_omciAttr2mask, Bool.or_eq_true,
      decide_eq_true_eq] at hother
    rcases hother with hold | rfl
    · exact List.mem_append_left _ (h.mask other hold)
    · exact List.mem_append_right _ List.mem_cons_self
  · show acc.offset + _ = _
    rw [cls.sizeIn_append, hsizeIn, cls.sizeIn_singleton, if_pos (by simp), ← h.offset]
  · exact Nat.add_le_add_right h.offset_le_sum _
  · show acc.offset + _ ≤ getRspValuesSize
    simp only [getRspValuesSize]
    omega
  · intro other hother
    simp only [AttrMask.has_or, AttrMask.has_omciAttr2mask, Bool.or_eq_true,
      decide_eq_true_eq] at hother
    by_cases hsame : attr = other
    · subst hsame
      show slice (acc.rsp.write _ _).octet (3 + cls.offsetIn _ attr) _ = _
      rw [hplace attr le_rfl, hself, OmciMsg.slice_octet_write _ _ _ (by omega)]
      exact slice_patch_self _ _ _ (length_slice _ _ _)
    · have hold := hother.resolve_right hsame
      have hmem := h.mask other hold
      have hend : cls.offsetIn acc.attrMaskRsp other + (cls.attrs other).size ≤ acc.offset := by
        rw [h.offset]
        exact offsetIn_add_le hsplit hmem hold
      show slice (acc.rsp.write _ _).octet (3 + cls.offsetIn _ other) _ = _
      rw [hplace other (hlt other hmem).le, OmciMsg.slice_octet_write _ _ _ (by omega),
        slice_patch_of_disjoint _ _ (.inl (by omega))]
      exact h.value other hold
  · intro hreadable
    show acc.attrSizeSum + _ = _
    rw [cls.sizeIn_append, cls.sizeIn_singleton, if_pos hattr, h.sum hreadable]
  · intro hreadable other hother hhas hroom'
    simp only [AttrMask.has_or, AttrMask.has_omciAttr2mask, Bool.or_eq_true, decide_eq_true_eq]
    rcases List.mem_append.mp hother with hold | hlast
    · exact .inl (h.complete hreadable other hold hhas hroom')
    · exact .inr (List.mem_singleton.mp hlast).symm

end Packed

/-- What the whole loop has packed. -/
structure PackedAll (cls : TblClass ω) (attrMask : AttrMask) (data : Buffer) (acc : GetAttrs) :
    Prop where
  room : ∀ attr, acc.attrMaskRsp.has attr = true →
    cls.offsetIn acc.attrMaskRsp attr + (cls.attrs attr).size ≤ getRspValuesSize
  value : ∀ attr, acc.attrMaskRsp.has attr = true →
    slice acc.rsp.octet (3 + cls.offsetIn acc.attrMaskRsp attr) (cls.attrs attr).size =
      cls.attrValue attr data
  errors : cls.Readable attrMask → acc.attrExecMask = 0 ∧ acc.optAttrMask = 0
  complete : cls.Readable attrMask → ∀ attr, attrMask.has attr = true →
    cls.offsetIn attrMask attr + (cls.attrs attr).size ≤ getRspValuesSize →
      acc.attrMaskRsp.has attr = true

section Loop

variable {cls : TblClass ω} {attrMask : AttrMask} {data : Buffer} {done rest : List Attr}
  {acc : GetAttrs} {attr : Attr}

theorem Packed.room (h : Packed cls attrMask data done acc)
    (hsplit : done ++ rest = List.finRange 16) (hattr : acc.attrMaskRsp.has attr = true) :
    cls.offsetIn acc.attrMaskRsp attr + (cls.attrs attr).size ≤ getRspValuesSize := by
  have hend : cls.offsetIn acc.attrMaskRsp attr + (cls.attrs attr).size ≤ acc.offset := by
    rw [h.offset]
    exact offsetIn_add_le hsplit (h.mask attr hattr) hattr
  exact hend.trans h.fits

theorem Packed.all (h : Packed cls attrMask data (List.finRange 16) acc) :
    PackedAll cls attrMask data acc where
  room _ := h.room (List.append_nil _)
  value := h.value
  errors := h.errors
  complete hreadable attr := h.complete hreadable attr (List.mem_finRange attr)

/-- An attribute that does not fit ends the loop; none behind it would fit. -/
theorem Packed.full (h : Packed cls attrMask data done acc) (hattr : attrMask.has attr = true)
    (hsplit : done ++ attr :: rest = List.finRange 16)
    (hfull : getRspValuesSize < acc.attrSizeSum + (cls.attrs attr).size) (attrSizeSum : Nat) :
    PackedAll cls attrMask data { acc with attrSizeSum := attrSizeSum } where
  room other := h.room hsplit
  value := h.value
  errors := h.errors
  complete hreadable other hother hroom := by
    have hmem : other ∈ done ++ attr :: rest := hsplit ▸ List.mem_finRange other
    rcases List.mem_append.mp hmem with hdone | hrest
    · exact h.complete hreadable other hdone hother hroom
    · obtain ⟨between, behind, hcut⟩ := List.append_of_mem hrest
      have hsplit' : (done ++ between) ++ other :: behind = List.finRange 16 := by
        rw [List.append_assoc, ← hcut, hsplit]
      have hoffset : cls.offsetIn attrMask other = cls.sizeIn attrMask (done ++ between) :=
        offsetIn_eq_of_append hsplit'
      rw [hoffset, cls.sizeIn_append, ← h.sum hreadable] at hroom
      cases between with
      | nil =>
          obtain ⟨rfl, _⟩ := List.cons.inj hcut
          simp only [MeClass.sizeIn, List.filter_nil, List.map_nil, List.sum_nil] at hroom
          omega
      | cons head between =>
          obtain ⟨rfl, _⟩ := List.cons.inj hcut
          have hhead : cls.sizeIn attrMask (attr :: between) =
              (cls.attrs attr).size + cls.sizeIn attrMask between := by
            simp [MeClass.sizeIn, hattr]
          omega

/-- The loop packs the attributes one after the other, if reading changes nothing and
succeeds. -/
theorem getAttrs_packed {ref : MeRef} {interval : PmInterval} {state : GetState ω}
    (hread : meDataRead cls.toMeClass ref interval state.store = (state.store, .success, data))
    (htable : ∀ attr, (cls.attrs attr).size ≤ getRspValuesSize ∧
      hasProp (cls.attrs attr).prop AttrProp.table = false)
    (instanceId : InstanceId) (env : GetEnv ω) (attrs : List Attr)
    (hsplit : done ++ attrs = List.finRange 16) (h : Packed cls attrMask data done acc) :
    ∃ acc', getAttrs cls ref instanceId attrMask interval env attrs state acc =
      .finished state acc' ∧ PackedAll cls attrMask data acc' := by
  induction attrs generalizing done acc with
  | nil =>
      rw [List.append_nil] at hsplit
      exact ⟨acc, rfl, (hsplit ▸ h).all⟩
  | cons attr attrs ih =>
      have hsplit' : (done ++ [attr]) ++ attrs = List.finRange 16 := by
        rw [List.append_assoc]
        exact hsplit
      have hnew : attr ∉ done := by
        have hnodup : (done ++ attr :: attrs).Nodup := hsplit ▸ List.nodup_finRange 16
        exact fun hmem => (List.nodup_append.mp hnodup).2.2 attr hmem attr List.mem_cons_self rfl
      rw [getAttrs]
      dsimp only
      by_cases hattr : attrMask.has attr = true
      · rw [if_neg (by simp [hattr])]
        by_cases hexist : cls.isMeAttrExist attr = true
        · have hsupported := MeClass.supported_of_isMeAttrExist _ hexist
          rw [if_neg (by simp [hexist]), if_neg (by simp [hsupported])]
          by_cases hrd : hasProp (cls.attrs attr).prop AttrProp.rd = true
          · have hplain := htable attr
            rw [if_neg (by simp [hrd]), if_neg (by simp [hplain.2, Nat.not_lt.mpr hplain.1])]
            by_cases hfull : getRspValuesSize < acc.attrSizeSum + (cls.attrs attr).size
            · rw [if_pos hfull]
              exact ⟨_, rfl, h.full hattr hsplit hfull _⟩
            · rw [if_neg hfull, hread]
              exact ih hsplit' (h.read hattr hsplit (Nat.not_lt.mp hfull))
          · rw [if_pos (by simpa using hrd)]
            exact ih hsplit' (h.refuse hattr hnew (fun hboth => hrd hboth.2) _ acc.optAttrMask)
        · rw [if_pos (by simpa using hexist)]
          exact ih hsplit' (h.refuse hattr hnew (fun hboth => hexist hboth.1) _ acc.optAttrMask)
      · rw [if_pos (by simpa using hattr)]
        exact ih hsplit' (h.skip (by simpa using hattr) hnew)

end Loop

/-! ## The response -/

/-- The response has the values of the attributes that it names, and names those of the
request that there is room for, if all of them can be read. -/
structure GetAnswered (cls : TblClass ω) (attrMask : AttrMask) (data : Buffer)
    (result : ActionResult (GetState ω)) : Prop where
  value : result.error = .success → ∀ attr, AttrMask.has (result.rsp.field16 1) attr = true →
    slice result.rsp.octet (3 + cls.offsetIn (result.rsp.field16 1) attr) (cls.attrs attr).size =
      cls.attrValue attr data
  complete : cls.Readable attrMask → result.error = .success ∧
    ∀ attr, attrMask.has attr = true →
      cls.offsetIn attrMask attr + (cls.attrs attr).size ≤ getRspValuesSize →
        AttrMask.has (result.rsp.field16 1) attr = true

theorem getFinish_state (cls : TblClass ω) (state : GetState ω) (acc : GetAttrs) :
    (getFinish cls state acc).state = state := by
  rw [getFinish]
  split
  · split <;> rfl
  · rfl

/-- What was packed is answered. -/
theorem PackedAll.answered {cls : TblClass ω} {attrMask : AttrMask} {data : Buffer}
    {acc : GetAttrs} (h : PackedAll cls attrMask data acc) (state : GetState ω) :
    GetAnswered cls attrMask data (getFinish cls state acc) := by
  by_cases herrors : (acc.attrExecMask != 0 || acc.optAttrMask != 0) = true
  · -- an error is reported instead
    have hfailed : (getFinish cls state acc).error = .action := by
      rw [getFinish, if_pos herrors]
      split <;> rfl
    refine ⟨fun hsuccess => absurd (hfailed.symm.trans hsuccess) nofun, fun hreadable => ?_⟩
    obtain ⟨hexec, hopt⟩ := h.errors hreadable
    rw [hexec, hopt] at herrors
    exact absurd herrors (by decide)
  · have hfinish : getFinish cls state acc = ⟨state, .success,
        (acc.rsp.withResult mrCmdSuccess).write 1 (octets16 acc.attrMaskRsp)⟩ := by
      rw [getFinish, if_neg herrors]
    have hmask : ((acc.rsp.withResult mrCmdSuccess).write 1
        (octets16 acc.attrMaskRsp)).field16 1 = acc.attrMaskRsp :=
      OmciMsg.field16_write _ _ (by decide)
    rw [hfinish]
    refine ⟨fun _ attr hattr => ?_, fun hreadable => ⟨rfl, fun attr hattr hroom => ?_⟩⟩
    · rw [hmask] at hattr
      have hroom := h.room attr hattr
      simp only [getRspValuesSize] at hroom
      show slice (OmciMsg.octet _) (3 + cls.offsetIn (OmciMsg.field16 _ 1) attr) _ = _
      have hbehindMask : 1 + (octets16 acc.attrMaskRsp).length ≤
          3 + cls.offsetIn acc.attrMaskRsp attr := Nat.le_add_right 3 _
      have hbehindResult : 0 + [mrCmdSuccess].length ≤ 3 + cls.offsetIn acc.attrMaskRsp attr :=
        Nat.le_add_right_of_le (by decide)
      rw [hmask, OmciMsg.slice_octet_write _ _ _ (by omega),
        slice_patch_of_disjoint _ _ (.inr hbehindMask), OmciMsg.withResult,
        OmciMsg.slice_octet_write _ _ _ (by omega),
        slice_patch_of_disjoint _ _ (.inr hbehindResult)]
      exact h.value attr hattr
    · show AttrMask.has (OmciMsg.field16 _ 1) attr = true
      rw [hmask]
      exact h.complete hreadable attr hattr hroom

/-- A GET whose reads change nothing and succeed. -/
theorem getActionHandle_answered {cls : TblClass ω} {ref : MeRef} {env : GetEnv ω}
    {state : GetState ω} {msg : OmciMsg} {store : Store ω} {data : Buffer}
    (hcounters : getCounters cls.toMeClass (getInterval msg) env state.store = (store, .success))
    (hread : meDataRead cls.toMeClass ref (getInterval msg) store = (store, .success, data))
    (htable : ∀ attr, (cls.attrs attr).size ≤ getRspValuesSize ∧
      hasProp (cls.attrs attr).prop AttrProp.table = false)
    (instanceId : InstanceId) (rsp : OmciMsg) :
    (getActionHandle cls ref instanceId env state msg rsp).state = ⟨store, state.copies⟩ ∧
      GetAnswered cls (msg.field16 0) data
        (getActionHandle cls ref instanceId env state msg rsp) := by
  have hstart : Packed cls (msg.field16 0) data []
      ⟨0, 0, 0, 0, 0, rsp.write 1 (octets16 (msg.field16 0))⟩ := by
    refine ⟨?_, rfl, le_rfl, Nat.zero_le _, ?_, fun _ => ⟨rfl, rfl⟩, fun _ => rfl, nofun⟩
    · exact fun attr hattr => absurd ((AttrMask.has_zero attr).symm.trans hattr) nofun
    · exact fun attr hattr => absurd ((AttrMask.has_zero attr).symm.trans hattr) nofun
  have hread' : meDataRead cls.toMeClass ref (getInterval msg)
      (GetState.mk store state.copies).store = (store, .success, data) := hread
  obtain ⟨acc, hloop, hpacked⟩ := getAttrs_packed hread' htable instanceId env
    (List.finRange 16) (List.nil_append _) hstart
  have hfinished : getActionHandle cls ref instanceId env state msg rsp =
      getFinish cls ⟨store, state.copies⟩ acc := by
    rw [getActionHandle]
    dsimp only
    rw [hcounters]
    dsimp only
    rw [hloop]
  rw [hfinished]
  exact ⟨getFinish_state cls _ acc, hpacked.answered _⟩

end FalconGpon.Omci
