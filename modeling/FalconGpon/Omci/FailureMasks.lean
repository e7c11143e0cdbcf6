/-
# The failure masks of GET and SET

A response with the result "attribute(s) failed or unknown" carries two masks. The
optional-attribute mask is to name the requested attributes that the entity does not
support, the execution mask the supported ones that failed.

A SET is refused before anything is written; its answer has the whole request in the
execution mask, and in the other one the unsupported attributes that were not requested. A
GET finds out about unsupported attributes where it looks for undefined ones, so that they
end up in the execution mask, and the branch behind that sets the other mask is never taken. Where
it ends at a table attribute, the attributes that failed before are forgotten.
-/

import FalconGpon.Omci.ClassLayout
import FalconGpon.Omci.TableCopy

namespace FalconGpon.Omci

open FalconGpon.Lib

variable {ω : Type}

/-- The two masks name what is not supported and what failed. -/
structure FailureMasks (cls : MeClass ω) (attrMask attrExecMask optAttrMask : AttrMask)
    (failed : Attr → Prop) : Prop where
  opt : ∀ attr, optAttrMask.has attr = true ↔
    attrMask.has attr = true ∧ cls.isMeAttrExist attr = false
  exec : ∀ attr, attrExecMask.has attr = true ↔
    attrMask.has attr = true ∧ cls.isMeAttrExist attr = true ∧ failed attr

def MeClass.SupportsAll (cls : MeClass ω) (attrMask : AttrMask) : Prop :=
  ∀ attr, attrMask.has attr = true → cls.isMeAttrExist attr = true

instance (cls : MeClass ω) (attrMask : AttrMask) : Decidable (cls.SupportsAll attrMask) :=
  inferInstanceAs
    (Decidable (∀ attr : Attr, attrMask.has attr = true → cls.isMeAttrExist attr = true))

/-! ## Fields of responses -/

theorem OmciMsg.field16_write_of_disjoint (msg : OmciMsg) {offset start : Nat}
    (octets : List Byte) (hstart : start + 1 < 32)
    (h : start + 2 ≤ offset ∨ offset + octets.length ≤ start) :
    (msg.write offset octets).field16 start = msg.field16 start := by
  have hoctet : ∀ i, i < 2 → (msg.write offset octets).octet (start + i) =
      msg.octet (start + i) := by
    intro i hi
    rw [OmciMsg.octet_write _ _ _ (by omega)]
    rcases h with h | h
    · exact patch_of_lt (by omega)
    · exact patch_of_le (by omega)
  rw [OmciMsg.field16, OmciMsg.field16, hoctet 1 (by decide), ← Nat.add_zero start,
    hoctet 0 (by decide)]

/-! ## SET -/

section Set

variable {table : ClassTable ω} {ctx : Context ω} {cls : MeClass ω} {me : MeEntry}
  {msg : OmciMsg} {result : ActionResult (Context ω)}

theorem setValidate_result {store : Store ω} {attrMask : AttrMask} {updData : Buffer}
    {rsp : OmciMsg} {answer : OmciError × OmciMsg}
    (h : setValidate cls store attrMask updData rsp = some answer) :
    answer.2.result ≠ mrAttrFailed := by
  rw [setValidate] at h
  split at h
  · cases h
  · dsimp only at h
    split at h
    · cases h
      simp [mrCmdError, mrAttrFailed]
    · split at h
      · cases h
        dsimp only
        rw [setRspFailed, OmciMsg.result_write _ _ (by decide),
          OmciMsg.result_write _ _ (by decide), OmciMsg.result_withResult]
        decide
      · split at h
        · cases h
          simp [mrCmdError, mrAttrFailed]
        · cases h

/-- Only a SET that is refused is answered so. -/
theorem setActionHandle_refused
    (hset : setActionHandle table ctx cls me msg (rspCreate msg) = some result)
    (hfailed : result.rsp.result = mrAttrFailed) :
    cls.setRefused (setAttrMask msg) = true ∧ result =
      ⟨ctx, .action, setRspFailed cls (rspCreate msg) mrAttrFailed (setAttrMask msg)
        (setAttrMask msg)⟩ := by
  by_cases hrefused : cls.setRefused (setAttrMask msg) = true
  · rw [setActionHandle] at hset
    split at hset
    · cases hset
    · dsimp only at hset
      rw [if_pos hrefused] at hset
      cases hset
      exact ⟨hrefused, rfl⟩
  · -- all other answers have another result
    exfalso
    apply absurd hfailed
    rw [setActionHandle] at hset
    split at hset
    · cases hset
    · dsimp only at hset
      rw [if_neg hrefused] at hset
      split at hset
      · cases hset
      · split at hset
        · split at hset
          · cases hset
            simp [mrCmdSuccess, mrAttrFailed]
          · split at hset
            · rename_i hvalidate
              cases hset
              exact setValidate_result hvalidate
            · split at hset
              · cases hset
              · split at hset
                · cases hset
                  dsimp only
                  rw [OmciMsg.result_write _ _ (by decide), OmciMsg.result_withResult]
                  decide
                · cases hset
                  simp [mrCmdSuccess, mrAttrFailed]
        · cases hset
          simp [mrCmdError, mrAttrFailed]

theorem setRspFailed_masks (rsp : OmciMsg) (result : Byte) (attrMask : AttrMask) :
    (setRspFailed cls rsp result attrMask attrMask).field16 3 = attrMask ∧
      (setRspFailed cls rsp result attrMask attrMask).field16 1 =
        attrMask &&& cls.optAttrMask ^^^ cls.optAttrMask := by
  rw [setRspFailed]
  constructor
  · have hbehind : 1 + (octets16 (attrMask &&& cls.optAttrMask ^^^ cls.optAttrMask)).length ≤ 3 :=
      le_rfl
    rw [OmciMsg.field16_write_of_disjoint _ _ (by decide) (.inr hbehind),
      OmciMsg.field16_write _ _ (by decide)]
  · exact OmciMsg.field16_write _ _ (by decide)

/-- The answer to a SET has the right masks exactly if the entity supports all attributes
that were requested and has no unsupported ones, and each requested one counts as failed. -/
theorem setMasks_iff {attrMask : AttrMask} {failed : Attr → Prop} :
    FailureMasks cls attrMask attrMask (attrMask &&& cls.optAttrMask ^^^ cls.optAttrMask) failed ↔
      cls.SupportsAll attrMask ∧ cls.optAttrMask = 0 ∧
        ∀ attr, attrMask.has attr = true → failed attr := by
  have hopt : ∀ attr, AttrMask.has (attrMask &&& cls.optAttrMask ^^^ cls.optAttrMask) attr =
      (!attrMask.has attr && cls.optAttrMask.has attr) := by
    intro attr
    rw [AttrMask.has_xor, AttrMask.has_and]
    cases attrMask.has attr <;> simp
  constructor
  · intro hmasks
    have hall : cls.SupportsAll attrMask := fun attr hattr => ((hmasks.exec attr).mp hattr).2.1
    refine ⟨hall, ?_, fun attr hattr => ((hmasks.exec attr).mp hattr).2.2⟩
    apply AttrMask.ext_has
    intro attr
    apply (Eq.trans · (AttrMask.has_zero attr).symm)
    by_contra hattr
    rw [Bool.not_eq_false] at hattr
    have hnot : attrMask.has attr = false := by
      by_contra hrequested
      rw [Bool.not_eq_false] at hrequested
      have hexist := hall attr hrequested
      rw [MeClass.optAttrMask, AttrMask.has_maskOf] at hattr
      simp [MeClass.isMeAttrExist, hattr] at hexist
    have hrequested := ((hmasks.opt attr).mp (by rw [hopt, hnot, hattr]; rfl)).1
    exact Bool.false_ne_true (hnot.symm.trans hrequested)
  · rintro ⟨hall, hnone, hfailed⟩
    constructor
    · intro attr
      rw [hopt, hnone]
      simp only [BitVec.ofNat_eq_ofNat, AttrMask.has_zero, Bool.and_false, Bool.false_eq_true,
        false_iff, not_and, Bool.not_eq_false]
      exact hall attr
    · intro attr
      exact ⟨fun hattr => ⟨hattr, hall attr hattr, hfailed attr hattr⟩, fun h => h.1⟩

end Set

/-! ## GET -/

/-- The supported attributes of a GET that cannot be read, as far as the loop comes. -/
def unreadAttrs (cls : TblClass ω) (ref : MeRef) (attrMask : AttrMask) (interval : PmInterval) :
    List Attr → Nat → Store ω → List Attr
  | [], _, _ => []
  | attr :: attrs, attrSizeSum, store =>
      let size := (cls.attrs attr).size
      let prop := (cls.attrs attr).prop
      if !attrMask.has attr || !cls.isMeAttrExist attr then
        unreadAttrs cls ref attrMask interval attrs attrSizeSum store
      else if !hasProp prop AttrProp.rd then
        attr :: unreadAttrs cls ref attrMask interval attrs attrSizeSum store
      else if getRspValuesSize < size || hasProp prop AttrProp.table then []
      else if getRspValuesSize < attrSizeSum + size then []
      else
        let read := meDataRead cls.toMeClass ref interval store
        let rest := unreadAttrs cls ref attrMask interval attrs (attrSizeSum + size) read.1
        if read.2.1 = .success then rest else attr :: rest

section Get

variable {cls : TblClass ω} {ref : MeRef} {instanceId : InstanceId} {attrMask : AttrMask}
  {interval : PmInterval} {env : GetEnv ω}

/-- An unread attribute was requested and is supported. -/
theorem of_mem_unreadAttrs {attrs : List Attr} {attrSizeSum : Nat} {store : Store ω}
    {attr : Attr} (h : attr ∈ unreadAttrs cls ref attrMask interval attrs attrSizeSum store) :
    attr ∈ attrs ∧ attrMask.has attr = true ∧ cls.isMeAttrExist attr = true := by
  induction attrs generalizing attrSizeSum store with
  | nil => cases h
  | cons head attrs ih =>
      have hrest : ∀ {sum : Nat} {store : Store ω},
          attr ∈ unreadAttrs cls ref attrMask interval attrs sum store →
            attr ∈ head :: attrs ∧ attrMask.has attr = true ∧ cls.isMeAttrExist attr = true :=
        fun hmem => ⟨List.mem_cons_of_mem _ (ih hmem).1, (ih hmem).2⟩
      rw [unreadAttrs] at h
      dsimp only at h
      split at h
      · exact hrest h
      · rename_i hhead
        rw [Bool.or_eq_true, not_or, Bool.not_eq_true, Bool.not_eq_true, Bool.not_eq_false',
          Bool.not_eq_false'] at hhead
        split at h
        · rcases List.mem_cons.mp h with rfl | hmem
          · exact ⟨List.mem_cons_self, hhead⟩
          · exact hrest hmem
        · split at h
          · cases h
          · split at h
            · cases h
            · split at h
              · exact hrest h
              · rcases List.mem_cons.mp h with rfl | hmem
                · exact ⟨List.mem_cons_self, hhead⟩
                · exact hrest hmem

/-- The table attribute that the loop comes to was requested and is supported, and is not
among those it could not read. -/
theorem tableAttr_not_unread {attrs : List Attr} (hnodup : attrs.Nodup) {attrSizeSum : Nat}
    {store store' : Store ω} {attr : Attr}
    (htable : tableAttr cls ref attrMask interval attrs attrSizeSum store = some (attr, store')) :
    attr ∈ attrs ∧ attrMask.has attr = true ∧ cls.isMeAttrExist attr = true ∧
      attr ∉ unreadAttrs cls ref attrMask interval attrs attrSizeSum store := by
  induction attrs generalizing attrSizeSum store with
  | nil => cases htable
  | cons head attrs ih =>
      obtain ⟨hhead, hattrs⟩ := List.nodup_cons.mp hnodup
      rw [tableAttr] at htable
      rw [unreadAttrs]
      dsimp only at htable ⊢
      by_cases hskip : (!attrMask.has head || !cls.isMeAttrExist head) = true
      · rw [if_pos (by simp [hskip])] at htable
        rw [if_pos hskip]
        obtain ⟨hmem, hrest⟩ := ih hattrs htable
        exact ⟨List.mem_cons_of_mem _ hmem, hrest⟩
      · rw [if_neg hskip]
        rw [Bool.or_eq_true, not_or, Bool.not_eq_true, Bool.not_eq_true, Bool.not_eq_false',
          Bool.not_eq_false'] at hskip
        obtain ⟨hhas, hexist⟩ := hskip
        have hsupported := MeClass.supported_of_isMeAttrExist _ hexist
        -- a table attribute further behind is not the head
        have hlater : ∀ {sum : Nat} {next : Store ω},
            tableAttr cls ref attrMask interval attrs sum next = some (attr, store') →
              attr ∈ head :: attrs ∧ attrMask.has attr = true ∧ cls.isMeAttrExist attr = true ∧
                attr ≠ head ∧ attr ∉ unreadAttrs cls ref attrMask interval attrs sum next := by
          intro sum next hnext
          obtain ⟨hmem, hhas', hexist', hread⟩ := ih hattrs hnext
          exact ⟨List.mem_cons_of_mem _ hmem, hhas', hexist', fun hsame => hhead (hsame ▸ hmem),
            hread⟩
        by_cases hrd : hasProp (cls.attrs head).prop AttrProp.rd = true
        · rw [if_neg (by simp [hhas, hexist, hsupported, hrd])] at htable
          rw [if_neg (by simp [hrd])]
          by_cases hbig : (decide (getRspValuesSize < (cls.attrs head).size) ||
              hasProp (cls.attrs head).prop AttrProp.table) = true
          · rw [if_pos hbig] at htable ⊢
            cases htable
            exact ⟨List.mem_cons_self, hhas, hexist, List.not_mem_nil⟩
          · rw [if_neg hbig] at htable ⊢
            split at htable
            · cases htable
            · rename_i hroom
              rw [if_neg hroom]
              obtain ⟨hmem, hhas', hexist', hne, hread⟩ := hlater htable
              refine ⟨hmem, hhas', hexist', ?_⟩
              split
              · exact hread
              · exact List.not_mem_cons_of_ne_of_not_mem hne hread
        · rw [if_pos (by simp [hrd])] at htable
          rw [if_pos (by simpa using hrd)]
          obtain ⟨hmem, hhas', hexist', hne, hread⟩ := hlater htable
          exact ⟨hmem, hhas', hexist', List.not_mem_cons_of_ne_of_not_mem hne hread⟩

/-- How the loop ends at a table attribute or without one: the optional mask is as it was,
the execution mask has the attributes that could not be read if all are supported, and a
table finds the octets behind the values as they were. -/
def LoopEnds (cls : TblClass ω) (ref : MeRef) (instanceId : InstanceId) (env : GetEnv ω)
    (copies : TblCopies ω) (acc : GetAttrs) (supported : Prop) (unread : List Attr)
    (table : Option (Attr × Store ω)) (loop : GetLoop ω) : Prop :=
  match table with
  | some (attr, store) => ∃ rsp,
      loop = .table (getTable cls ref ⟨cls.classId, instanceId, attr.val + 1⟩ attr env
          ⟨store, copies⟩ rsp) ∧
        rsp.field16 28 = acc.rsp.field16 28
  | none => ∃ store acc',
      loop = .finished ⟨store, copies⟩ acc' ∧ acc'.optAttrMask = acc.optAttrMask ∧
        (supported → ∀ attr, acc'.attrExecMask.has attr = true ↔
          acc.attrExecMask.has attr = true ∨ attr ∈ unread)

/-- The ending is that of a later round. -/
theorem LoopEnds.of_later {copies : TblCopies ω} {acc later : GetAttrs}
    {supported supported' : Prop} {unread unread' : List Attr}
    {table : Option (Attr × Store ω)} {loop : GetLoop ω}
    (h : LoopEnds cls ref instanceId env copies later supported' unread' table loop)
    (hopt : later.optAttrMask = acc.optAttrMask)
    (hfield : later.rsp.field16 28 = acc.rsp.field16 28) (hexec : supported → supported' ∧ ∀ attr,
      (later.attrExecMask.has attr = true ∨ attr ∈ unread') ↔
        (acc.attrExecMask.has attr = true ∨ attr ∈ unread)) :
    LoopEnds cls ref instanceId env copies acc supported unread table loop := by
  rcases table with _ | ⟨attr, store⟩
  · obtain ⟨store, acc', hloop, hopt', hexec'⟩ := h
    refine ⟨store, acc', hloop, hopt'.trans hopt, fun hsupported attr => ?_⟩
    obtain ⟨hsupported', hsame⟩ := hexec hsupported
    exact (hexec' hsupported' attr).trans (hsame attr)
  · obtain ⟨rsp, hloop, hfield'⟩ := h
    exact ⟨rsp, hloop, hfield'.trans hfield⟩

/-- The loop ends so from any attribute on. -/
theorem getAttrs_ends (attrs : List Attr) (state : GetState ω) (acc : GetAttrs)
    (hoffset : acc.offset ≤ acc.attrSizeSum) :
    LoopEnds cls ref instanceId env state.copies acc
      (∀ attr ∈ attrs, attrMask.has attr = true → cls.isMeAttrExist attr = true)
      (unreadAttrs cls ref attrMask interval attrs acc.attrSizeSum state.store)
      (tableAttr cls ref attrMask interval attrs acc.attrSizeSum state.store)
      (getAttrs cls ref instanceId attrMask interval env attrs state acc) := by
  induction attrs generalizing state acc with
  | nil => exact ⟨state.store, acc, rfl, rfl, fun _ attr => by simp [unreadAttrs]⟩
  | cons head attrs ih =>
      have hrest : (∀ attr ∈ head :: attrs, attrMask.has attr = true →
          cls.isMeAttrExist attr = true) →
            ∀ attr ∈ attrs, attrMask.has attr = true → cls.isMeAttrExist attr = true :=
        fun hall attr hattr => hall attr (List.mem_cons_of_mem _ hattr)
      have hfailed : ∀ unread : List Attr, ∀ attr,
          (AttrMask.has (acc.attrExecMask ||| omciAttr2mask head) attr = true ∨ attr ∈ unread) ↔
            (acc.attrExecMask.has attr = true ∨ attr ∈ head :: unread) := by
        intro unread attr
        rw [AttrMask.has_or, AttrMask.has_omciAttr2mask, Bool.or_eq_true, decide_eq_true_eq,
          List.mem_cons, or_assoc, @eq_comm _ head attr]
      have hloop := ih state
        { acc with attrExecMask := acc.attrExecMask ||| omciAttr2mask head } hoffset
      rw [unreadAttrs, tableAttr, getAttrs]
      dsimp only
      by_cases hhas : attrMask.has head = true
      · by_cases hexist : cls.isMeAttrExist head = true
        · have hsupported := MeClass.supported_of_isMeAttrExist _ hexist
          by_cases hrd : hasProp (cls.attrs head).prop AttrProp.rd = true
          · simp only [hhas, hexist, hsupported, hrd, Bool.not_true, Bool.false_eq_true,
              if_false, Bool.or_false]
            by_cases hbig : (decide (getRspValuesSize < (cls.attrs head).size) ||
                hasProp (cls.attrs head).prop AttrProp.table) = true
            · rw [if_pos hbig, if_pos hbig, if_pos hbig]
              exact ⟨acc.rsp, rfl, rfl⟩
            · rw [if_neg hbig, if_neg hbig, if_neg hbig]
              by_cases hfull : getRspValuesSize < acc.attrSizeSum + (cls.attrs head).size
              · rw [if_pos hfull, if_pos hfull, if_pos hfull]
                exact ⟨state.store, _, rfl, rfl, fun _ attr => by simp⟩
              · rw [if_neg hfull, if_neg hfull, if_neg hfull]
                generalize meDataRead cls.toMeClass ref interval state.store = read
                obtain ⟨store, err, data⟩ := read
                by_cases herr : err = .success
                · subst herr
                  rw [if_pos rfl]
                  have hbehind : (acc.rsp.write (3 + acc.offset)
                      (cls.attrValue head data)).field16 28 = acc.rsp.field16 28 := by
                    apply OmciMsg.field16_write_of_disjoint _ _ (by decide)
                    right
                    rw [MeClass.attrValue, length_slice]
                    simp only [getRspValuesSize] at hfull
                    omega
                  have hloop := ih ⟨store, state.copies⟩
                    { acc with
                      attrSizeSum := acc.attrSizeSum + (cls.attrs head).size
                      attrMaskRsp := acc.attrMaskRsp ||| omciAttr2mask head
                      offset := acc.offset + (cls.attrs head).size
                      rsp := acc.rsp.write (3 + acc.offset) (cls.attrValue head data) }
                    (Nat.add_le_add_right hoffset _)
                  exact hloop.of_later rfl hbehind fun hall => ⟨hrest hall, fun _ => Iff.rfl⟩
                · have hloop := ih ⟨store, state.copies⟩
                    { acc with
                      attrExecMask := acc.attrExecMask ||| omciAttr2mask head
                      attrSizeSum := acc.attrSizeSum + (cls.attrs head).size }
                    (Nat.le_add_right_of_le hoffset)
                  rw [if_neg herr]
                  cases err <;> first
                    | exact absurd rfl herr
                    | exact hloop.of_later rfl rfl fun hall => ⟨hrest hall, hfailed _⟩
          · rw [Bool.not_eq_true] at hrd
            simp only [hhas, hexist, hsupported, hrd, Bool.not_true, Bool.not_false,
              Bool.false_eq_true, if_false, if_true, Bool.or_true, Bool.or_false]
            exact hloop.of_later rfl rfl fun hall => ⟨hrest hall, hfailed _⟩
        · -- not all are supported
          rw [Bool.not_eq_true] at hexist
          simp only [hhas, hexist, Bool.not_true, Bool.not_false, Bool.false_eq_true, if_false,
            if_true, Bool.or_true, Bool.true_or]
          refine hloop.of_later rfl rfl fun hall => ?_
          have hexist' := hall head List.mem_cons_self hhas
          exact absurd (hexist.symm.trans hexist') Bool.false_ne_true
      · rw [Bool.not_eq_true] at hhas
        simp only [hhas, Bool.not_false, if_true, Bool.true_or]
        exact (ih state acc hoffset).of_later rfl rfl fun hall =>
          ⟨hrest hall, fun _ => Iff.rfl⟩

theorem getTable_error (key : TblKey) (attr : Attr) (state : GetState ω) (rsp rsp' : OmciMsg) :
    (getTable cls ref key attr env state rsp).error =
      (getTable cls ref key attr env state rsp').error := by
  rw [getTable, getTable]
  split
  · rfl
  · split
    · rfl
    · dsimp only
      split
      · split <;> rfl
      · rfl

theorem result_getTblRspFailed (rsp : OmciMsg) (attr : Attr) :
    (getTblRspFailed rsp attr).field16 28 = rsp.field16 28 ∧
      (getTblRspFailed rsp attr).field16 30 = omciAttr2mask attr := by
  have hbehind : 7 + (List.replicate 21 (0 : Byte)).length ≤ 28 := by simp
  have hmask : 1 + (octets16 0).length ≤ 28 := by decide
  rw [getTblRspFailed]
  constructor
  · rw [OmciMsg.field16_write_of_disjoint _ _ (by decide) (.inr hbehind),
      OmciMsg.field16_write_of_disjoint _ _ (by decide) (.inr hmask),
      OmciMsg.field16_write_of_disjoint _ _ (by decide) (.inl le_rfl), OmciMsg.withResult,
      OmciMsg.field16_write_of_disjoint _ _ (by decide) (.inr (by simp))]
  · rw [OmciMsg.field16_write_of_disjoint _ _ (by decide) (.inr (hbehind.trans (by decide))),
      OmciMsg.field16_write_of_disjoint _ _ (by decide) (.inr (hmask.trans (by decide))),
      OmciMsg.field16_write _ _ (by decide)]

/-- A GET that fails at a table attribute names this one alone. -/
theorem getTable_attrFailed {key : TblKey} {attr : Attr} {state : GetState ω} {rsp : OmciMsg}
    (hfailed : (getTable cls ref key attr env state rsp).rsp.result = mrAttrFailed) :
    (getTable cls ref key attr env state rsp).error ≠ .success ∧
      (getTable cls ref key attr env state rsp).rsp = getTblRspFailed rsp attr := by
  rw [getTable] at hfailed ⊢
  split at hfailed
  · exact ⟨(fun h => by cases h), rfl⟩
  · split at hfailed
    · -- the cache has no entry
      dsimp only at hfailed
      rw [getTblRspBusy, OmciMsg.result_write _ _ (by decide),
        OmciMsg.result_write _ _ (by decide), OmciMsg.result_withResult] at hfailed
      exact absurd hfailed (by decide)
    · dsimp only at hfailed ⊢
      split at hfailed
      · split at hfailed
        · exact ⟨(fun h => by cases h), rfl⟩
        · dsimp only at hfailed
          rw [getTblRsp, OmciMsg.result_withResult] at hfailed
          exact absurd hfailed (by decide)
      · exact ⟨(fun h => by cases h), rfl⟩

/-- A GET that fails behind the loop names what the loop collected. -/
theorem getFinish_failed {state : GetState ω} {acc : GetAttrs}
    (hfailed : (getFinish cls state acc).rsp.result = mrAttrFailed) :
    (getFinish cls state acc).rsp.field16 28 = acc.optAttrMask ∧
      (getFinish cls state acc).rsp.field16 30 = acc.attrExecMask := by
  have hmask : 1 + (octets16 0).length ≤ 28 := by decide
  rw [getFinish] at hfailed ⊢
  split at hfailed
  · split at hfailed
    · dsimp only at hfailed
      rw [OmciMsg.result_write _ _ (by decide), OmciMsg.result_write _ _ (by decide),
        OmciMsg.result_write _ _ (by decide), OmciMsg.result_withResult] at hfailed
      exact absurd hfailed (by decide)
    · rename_i hany hinv
      rw [if_pos hany, if_neg hinv]
      constructor
      · dsimp only
        rw [OmciMsg.field16_write_of_disjoint _ _ (by decide) (.inr hmask),
          OmciMsg.field16_write _ _ (by decide)]
      · have hopt : 28 + (octets16 acc.optAttrMask).length ≤ 30 := le_rfl
        dsimp only
        rw [OmciMsg.field16_write_of_disjoint _ _ (by decide) (.inr (hmask.trans (by decide))),
          OmciMsg.field16_write_of_disjoint _ _ (by decide) (.inr hopt),
          OmciMsg.field16_write _ _ (by decide)]
  · dsimp only at hfailed
    rw [OmciMsg.result_write _ _ (by decide), OmciMsg.result_withResult] at hfailed
    exact absurd hfailed (by decide)

end Get

section GetFailed

variable (cls : TblClass ω) (ref : MeRef) (instanceId : InstanceId) (env : GetEnv ω)
  (state : GetState ω) (msg : OmciMsg)

def getUnread : List Attr :=
  unreadAttrs cls ref (msg.field16 0) (getInterval msg) (List.finRange 16) 0
    (getCounters cls.toMeClass (getInterval msg) env state.store).1

def getTableAttr : Option (Attr × Store ω) :=
  tableAttr cls ref (msg.field16 0) (getInterval msg) (List.finRange 16) 0
    (getCounters cls.toMeClass (getInterval msg) env state.store).1

/-- The attribute could not be read, or it is a table and could not be copied. -/
def GetFailed (attr : Attr) : Prop :=
  attr ∈ getUnread cls ref env state msg ∨
    ∃ store, getTableAttr cls ref env state msg = some (attr, store) ∧
      (getTable cls ref ⟨cls.classId, instanceId, attr.val + 1⟩ attr env ⟨store, state.copies⟩
        (rspCreate msg)).error ≠ .success

end GetFailed

section GetMasks

variable {cls : TblClass ω} {ref : MeRef} {instanceId : InstanceId} {env : GetEnv ω}
  {state : GetState ω} {msg : OmciMsg}

/-- How a GET ends that fails: at a table attribute, which is all that the answer names, or
behind the loop. -/
theorem getActionHandle_failed
    (hfailed : (getActionHandle cls ref instanceId env state msg (rspCreate msg)).rsp.result =
      mrAttrFailed) :
    (getActionHandle cls ref instanceId env state msg (rspCreate msg)).rsp.field16 28 = 0 ∧
      match getTableAttr cls ref env state msg with
      | some (attr, _) => GetFailed cls ref instanceId env state msg attr ∧
          (getActionHandle cls ref instanceId env state msg (rspCreate msg)).rsp.field16 30 =
            omciAttr2mask attr
      | none => cls.SupportsAll (msg.field16 0) → ∀ attr, AttrMask.has
          ((getActionHandle cls ref instanceId env state msg (rspCreate msg)).rsp.field16 30)
          attr = true ↔ attr ∈ getUnread cls ref env state msg := by
  have hblank : ((rspCreate msg).write 1 (octets16 (msg.field16 0))).field16 28 = 0 := by
    have hmask : 1 + (octets16 (msg.field16 0)).length ≤ 28 :=
      Nat.le_of_lt (show 3 < 28 by decide)
    rw [OmciMsg.field16_write_of_disjoint _ _ (by decide) (.inr hmask), OmciMsg.field16,
      octet_rspCreate, octet_rspCreate]
    rfl
  rw [getTableAttr, getUnread]
  rw [getActionHandle] at hfailed ⊢
  dsimp only at hfailed ⊢
  generalize hcounters : getCounters cls.toMeClass (getInterval msg) env state.store = counters
    at hfailed ⊢
  obtain ⟨store, err⟩ := counters
  by_cases herr : err = .success
  · subst herr
    dsimp only at hfailed ⊢
    have hends : LoopEnds cls ref instanceId env state.copies
        ⟨0, 0, 0, 0, 0, (rspCreate msg).write 1 (octets16 (msg.field16 0))⟩ _ _ _
        (getAttrs cls ref instanceId (msg.field16 0) (getInterval msg) env (List.finRange 16)
          { state with store := store } ⟨0, 0, 0, 0, 0, _⟩) :=
      getAttrs_ends (List.finRange 16) { state with store := store } _ le_rfl
    dsimp only at hends
    generalize htable : tableAttr cls ref (msg.field16 0) (getInterval msg) (List.finRange 16) 0
      store = table at hends ⊢
    rcases table with _ | ⟨attr, store'⟩
    · obtain ⟨store', acc, hloop, hopt, hexec⟩ := hends
      rw [hloop] at hfailed ⊢
      obtain ⟨hfield, hmask⟩ := getFinish_failed hfailed
      refine ⟨hfield.trans hopt, fun hall attr => ?_⟩
      have hhas := hexec (fun attr _ => hall attr) attr
      have hzero : ¬ AttrMask.has 0#16 attr = true := by simp
      show AttrMask.has ((getFinish cls ⟨store', state.copies⟩ acc).rsp.field16 30) attr = true ↔ _
      rw [hmask, hhas]
      exact or_iff_right hzero
    · obtain ⟨rsp, hloop, hfield⟩ := hends
      rw [hloop] at hfailed ⊢
      obtain ⟨herror, hrsp⟩ := getTable_attrFailed hfailed
      obtain ⟨hopt, hexec⟩ := result_getTblRspFailed rsp attr
      refine ⟨?_, .inr ⟨store', ?_, ?_⟩, ?_⟩
      · exact (congrArg (OmciMsg.field16 · 28) hrsp).trans (hopt.trans (hfield.trans hblank))
      · rw [getTableAttr, hcounters, htable]
      · rw [getTable_error _ _ _ (rspCreate msg) rsp]
        exact herror
      · exact (congrArg (OmciMsg.field16 · 30) hrsp).trans hexec
  · -- the response is still blank
    have hresult : ((rspCreate msg).write 1 (octets16 (msg.field16 0))).result = mrAttrFailed := by
      cases err <;> first
        | exact absurd rfl herr
        | exact hfailed
    rw [OmciMsg.result_write _ _ (by decide), OmciMsg.result, octet_rspCreate] at hresult
    exact absurd hresult (by decide)

/-- The answer of a GET that failed has the right masks exactly if the entity supports all
attributes that were requested and nothing failed before a table attribute. -/
theorem getMasks_iff
    (hfailed : (getActionHandle cls ref instanceId env state msg (rspCreate msg)).rsp.result =
      mrAttrFailed) :
    FailureMasks cls.toMeClass (msg.field16 0)
        ((getActionHandle cls ref instanceId env state msg (rspCreate msg)).rsp.field16 30)
        ((getActionHandle cls ref instanceId env state msg (rspCreate msg)).rsp.field16 28)
        (GetFailed cls ref instanceId env state msg) ↔
      cls.SupportsAll (msg.field16 0) ∧
        (getTableAttr cls ref env state msg = none ∨ getUnread cls ref env state msg = []) := by
  obtain ⟨hopt, hexec⟩ := getActionHandle_failed hfailed
  generalize (getActionHandle cls ref instanceId env state msg (rspCreate msg)).rsp = rsp
    at hopt hexec ⊢
  rw [hopt]
  constructor
  · intro hmasks
    have hall : cls.SupportsAll (msg.field16 0) := by
      intro attr hattr
      by_contra hexist
      rw [Bool.not_eq_true] at hexist
      have hhas := (hmasks.opt attr).mpr ⟨hattr, hexist⟩
      exact Bool.false_ne_true ((AttrMask.has_zero attr).symm.trans hhas)
    refine ⟨hall, ?_⟩
    generalize htable : getTableAttr cls ref env state msg = table at hexec
    rcases table with _ | ⟨attr, store⟩
    · exact Or.inl rfl
    · right
      apply List.eq_nil_iff_forall_not_mem.mpr
      intro other hother
      obtain ⟨_, hhas, hexist⟩ := of_mem_unreadAttrs hother
      have hnamed := (hmasks.exec other).mpr ⟨hhas, hexist, Or.inl hother⟩
      rw [hexec.2, AttrMask.has_omciAttr2mask, decide_eq_true_eq] at hnamed
      exact (tableAttr_not_unread (List.nodup_finRange 16) htable).2.2.2 (hnamed ▸ hother)
  · rintro ⟨hall, hbefore⟩
    constructor
    · intro attr
      rw [show AttrMask.has 0 attr = false from AttrMask.has_zero attr]
      refine ⟨nofun, fun h => ?_⟩
      exact absurd (h.2.symm.trans (hall attr h.1)) Bool.false_ne_true
    · intro attr
      generalize htable : getTableAttr cls ref env state msg = table at hexec hbefore
      rcases table with _ | ⟨tableAttr, store⟩
      · rw [hexec hall attr]
        constructor
        · intro hunread
          obtain ⟨_, hhas, hexist⟩ := of_mem_unreadAttrs hunread
          exact ⟨hhas, hexist, Or.inl hunread⟩
        · rintro ⟨_, _, hunread | ⟨store, hsome, _⟩⟩
          · exact hunread
          · rw [htable] at hsome
            cases hsome
      · obtain ⟨hfails, hmask⟩ := hexec
        obtain ⟨_, hhas, hexist, _⟩ := tableAttr_not_unread (List.nodup_finRange 16) htable
        rw [hmask, AttrMask.has_omciAttr2mask, decide_eq_true_eq]
        constructor
        · rintro rfl
          exact ⟨hhas, hexist, hfails⟩
        · rintro ⟨_, _, hunread | ⟨store', hsome, _⟩⟩
          · rw [hbefore.resolve_left nofun] at hunread
            cases hunread
          · rw [htable] at hsome
            cases hsome
            rfl

end GetMasks

/-! ## Both -/

/-- When the masks of an answer "attribute(s) failed or unknown" are right. In a SET, what
is not writable has failed; whether the other attributes have, as nothing is written, may be
looked at either way. -/
theorem failureMasks_iff :
    (∀ (table : ClassTable ω) (ctx : Context ω) (cls : MeClass ω) (me : MeEntry) (msg : OmciMsg)
      (result : ActionResult (Context ω)) (failed : Attr → Prop),
      setActionHandle table ctx cls me msg (rspCreate msg) = some result →
      result.rsp.result = mrAttrFailed →
        (FailureMasks cls (setAttrMask msg) (result.rsp.field16 3) (result.rsp.field16 1) failed ↔
          cls.SupportsAll (setAttrMask msg) ∧ cls.optAttrMask = 0 ∧
            ∀ attr, (setAttrMask msg).has attr = true → failed attr)) ∧
      ∀ (cls : TblClass ω) (ref : MeRef) (instanceId : InstanceId) (env : GetEnv ω)
        (state : GetState ω) (msg : OmciMsg),
        (getActionHandle cls ref instanceId env state msg (rspCreate msg)).rsp.result =
            mrAttrFailed →
          (FailureMasks cls.toMeClass (msg.field16 0)
              ((getActionHandle cls ref instanceId env state msg (rspCreate msg)).rsp.field16 30)
              ((getActionHandle cls ref instanceId env state msg (rspCreate msg)).rsp.field16 28)
              (GetFailed cls ref instanceId env state msg) ↔
            cls.SupportsAll (msg.field16 0) ∧
              (getTableAttr cls ref env state msg = none ∨
                getUnread cls ref env state msg = [])) := by
  constructor
  · intro table ctx cls me msg result failed hset hresult
    obtain ⟨_, rfl⟩ := setActionHandle_refused hset hresult
    obtain ⟨hexec, hopt⟩ := @setRspFailed_masks ω cls (rspCreate msg) mrAttrFailed
      (setAttrMask msg)
    rw [hexec, hopt]
    exact setMasks_iff
  · intro cls ref instanceId env state msg hresult
    exact getMasks_iff hresult

def MeClass.withoutTables (cls : MeClass ω) : TblClass ω where
  toMeClass := cls
  tblCopy := none

def plainEnv : GetEnv Unit where
  pmMeCountersGet _ store := (store, .success)
  timeoutEventAdd := false

/-- A GET message. -/
def getMsg (classId : ClassId) (instanceId : InstanceId) (attrMask : BitVec 16) : OmciMsg :=
  OmciMsg.write
    { header := ⟨1, 0x40 ||| mtGet, omciFormatBaseline, classId, instanceId⟩
      contents := Vector.replicate 32 0 } 0 (octets16 attrMask)

/-- A SET of the read-only sensed type of an Ethernet UNI, and a GET of the write-only
command of the ONU remote debug entity. -/
theorem failureMasks_rightAnswers :
    (∃ result, setActionHandle sampleTable (singleMe true 11 0x101) mePptpEthernetUniClass
        ⟨0, 0x101, true, true⟩ (setMsg 11 0x101 0x4000 0) (rspCreate (setMsg 11 0x101 0x4000 0)) =
          some result ∧
      FailureMasks mePptpEthernetUniClass 0x4000 (result.rsp.field16 3) (result.rsp.field16 1)
        fun _ => True) ∧
      FailureMasks meOnuRemoteDebugClass 0x4000
        ((getActionHandle meOnuRemoteDebugClass.withoutTables 0 0 plainEnv
          ⟨remoteDebugStore, tblCopyInit⟩ (getMsg 158 0 0x4000)
          (rspCreate (getMsg 158 0 0x4000))).rsp.field16 30)
        ((getActionHandle meOnuRemoteDebugClass.withoutTables 0 0 plainEnv
          ⟨remoteDebugStore, tblCopyInit⟩ (getMsg 158 0 0x4000)
          (rspCreate (getMsg 158 0 0x4000))).rsp.field16 28)
        (GetFailed meOnuRemoteDebugClass.withoutTables 0 0 plainEnv
          ⟨remoteDebugStore, tblCopyInit⟩ (getMsg 158 0 0x4000)) := by
  constructor
  · have hanswer : (setActionHandle sampleTable (singleMe true 11 0x101) mePptpEthernetUniClass
        ⟨0, 0x101, true, true⟩ (setMsg 11 0x101 0x4000 0)
        (rspCreate (setMsg 11 0x101 0x4000 0))).map (fun result => result.rsp.result) =
          some mrAttrFailed := by
      decide +kernel
    obtain ⟨result, hset, hresult⟩ := Option.map_eq_some_iff.mp hanswer
    have hmasks := (failureMasks_iff.1 sampleTable _ _ _ _ result (fun _ => True) hset hresult).mpr
      ⟨by decide +kernel, by decide, fun _ _ => trivial⟩
    have hmask : setAttrMask (setMsg 11 0x101 0x4000 0) = 0x4000 := by decide
    rw [hmask] at hmasks
    exact ⟨result, hset, hmasks⟩
  · have hmasks := (failureMasks_iff.2 meOnuRemoteDebugClass.withoutTables 0 0 plainEnv
      ⟨remoteDebugStore, tblCopyInit⟩ (getMsg 158 0 0x4000) (by decide +kernel)).mpr
        ⟨by decide +kernel, Or.inl (by decide +kernel)⟩
    have hmask : (getMsg 158 0 0x4000).field16 0 = 0x4000 := by decide
    rw [hmask] at hmasks
    exact hmasks

/-! ## The class of GEM port network CTPs -/

open AttrProp in
/-- `me_gem_port_network_ctp_class`, where all pointers are valid: the UNI counter and the
encryption state are not supported. -/
def meGemPortNetworkCtpClass : MeClass Unit where
  classId := 268
  attrs := packedAttrs
    [(2, rd ||| wr ||| sbc, none), (2, rd ||| wr ||| sbc, none), (1, rd ||| wr ||| sbc, none),
      (2, rd ||| wr ||| sbc, none), (2, rd ||| wr ||| sbc, none), (1, rd ||| notSupported, none),
      (2, rd ||| wr ||| sbc, none), (1, rd ||| notSupported, none), (2, rd ||| wr, none)]
  actions := oltActions
  init := some fun me _ initData _ =>
    match initData with
    | .none => .done .invalidPtr
    | some data => initWrite me data
  shutdown := some fun _ _ => .done .success
  validate := some acceptAll
  update := some updateDriver
  countersGet := .none
  thrSet := .none
  dataSize := 15
  prop := MeProp.hasAlarms ||| 0x8000

/-- A SET or a GET of the UNI counter: the optional mask of the SET has the encryption state
instead, that of the GET nothing, and the execution masks have the unsupported attribute. -/
theorem failureMasks_wrongAnswers :
    (setActionHandle sampleTable (singleMe true 272 1) meGemPortNetworkCtpClass
        ⟨0, 1, true, true⟩ (setMsg 268 1 0x0400 0) (rspCreate (setMsg 268 1 0x0400 0))).map
          (fun result =>
            (result.rsp.result, result.rsp.field16 3, result.rsp.field16 1)) =
        some (mrAttrFailed, 0x0400, 0x0100) ∧
      (∀ failed, ¬ FailureMasks meGemPortNetworkCtpClass 0x0400 0x0400 0x0100 failed) ∧
      (getActionHandle meGemPortNetworkCtpClass.withoutTables 0 1 plainEnv
          ⟨blankStore, tblCopyInit⟩ (getMsg 268 1 0x0400)
          (rspCreate (getMsg 268 1 0x0400))).rsp.result = mrAttrFailed ∧
      (getActionHandle meGemPortNetworkCtpClass.withoutTables 0 1 plainEnv
          ⟨blankStore, tblCopyInit⟩ (getMsg 268 1 0x0400)
          (rspCreate (getMsg 268 1 0x0400))).rsp.field16 30 = 0x0400 ∧
      (getActionHandle meGemPortNetworkCtpClass.withoutTables 0 1 plainEnv
          ⟨blankStore, tblCopyInit⟩ (getMsg 268 1 0x0400)
          (rspCreate (getMsg 268 1 0x0400))).rsp.field16 28 = 0 ∧
      (∀ failed, ¬ FailureMasks meGemPortNetworkCtpClass 0x0400 0x0400 0 failed) := by
  have hunsupported : ∀ {optAttrMask : AttrMask} {failed : Attr → Prop},
      ¬ FailureMasks meGemPortNetworkCtpClass 0x0400 0x0400 optAttrMask failed := by
    intro optAttrMask failed hmasks
    have hexist := ((hmasks.exec 5).mp (by decide)).2.1
    exact absurd hexist (by decide)
  exact ⟨by decide +kernel, fun _ => hunsupported, by decide +kernel, by decide +kernel,
    by decide +kernel, fun _ => hunsupported⟩

end FalconGpon.Omci
