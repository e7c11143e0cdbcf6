/-
# The SET action

`set_action_handle` with the PM threshold update it triggers. A SET builds a copy of
the entity's data with the new values, has it validated, hands it to the class's update
handler and copies it back.

`setActionHandle_correct_iff` says when a SET stores what its message carries if it is
answered with success, and nothing otherwise, in terms of what the handlers of the class
answer. The copy takes the value of an attribute with a get handler from that handler
instead of the message, and the update handler may change the copy and the stored data.
-/

import FalconGpon.Omci.MeData
import FalconGpon.Omci.MeDef

namespace FalconGpon.Omci

open FalconGpon.Lib

variable {ω : Type}

/-- What an action handler leaves behind. -/
structure ActionResult (σ : Type) where
  state : σ
  error : OmciError
  rsp : OmciMsg

/-! ## Thresholds -/

/-- `OMCI_ME_THRESHOLD_DATA1`. -/
def omciMeThresholdData1 : ClassId := 273

/-- `OMCI_ME_THRESHOLD_DATA2`. -/
def omciMeThresholdData2 : ClassId := 274

/-- `omci_me_pm_thr_data_id`, the second attribute of all PM entities. -/
def omciMePmThrDataId : Attr := 1

/-- The size of `struct omci_me_threshold_data1` and `struct omci_me_threshold_data2`. -/
def thresholdDataSize : Nat := 28

def word32 (data : Buffer) (offset : Nat) : BitVec 32 :=
  data offset ++ data (offset + 1) ++ data (offset + 2) ++ data (offset + 3)

/-- Read the seven thresholds of a threshold data entity, zeros if there is none; `none`
if an assertion fails. -/
def thresholdsRead (table : ClassTable ω) (ctx : Context ω) (classId : ClassId)
    (instanceId : InstanceId) (store : Store ω) : Option (Store ω × OmciError × List (BitVec 32)) :=
  match mibMeFind table ctx classId instanceId, table.classEntryFind classId with
  | .ok thr, some cls =>
      if thresholdDataSize < cls.dataSize then none
      else
        let (store, err, data) := meDataRead cls thr .curr store
        some (store, err, (List.range 7).map fun i => word32 data (4 * i))
  | _, _ => some (store, .success, List.replicate 7 0)

/-- Hand the thresholds to the `thr_set` handler. -/
def thrSetCall (cls : MeClass ω) (ref : MeRef) (thr : List (BitVec 32)) (store : Store ω) :
    Store ω :=
  match cls.thrSet with
  | some thrSet => thrSet ref thr store
  | none => store

/-- `pm_me_thr_set`; the eighth threshold is never filled in. -/
def pmMeThrSet (table : ClassTable ω) (ctx : Context ω) (cls : MeClass ω) (ref : MeRef)
    (store : Store ω) : Option (Store ω) :=
  if (cls.attrs omciMePmThrDataId).size ≠ 2 then none
  else
    match meDataRead cls ref .curr store with
    | (store, .success, data) =>
        let offset := (cls.attrs omciMePmThrDataId).offset
        let thrData : InstanceId := data offset ++ data (offset + 1)
        match thresholdsRead table ctx omciMeThresholdData1 thrData store with
        | some (store, .success, thr1) =>
            match thresholdsRead table ctx omciMeThresholdData2 thrData store with
            | some (store, .success, thr2) =>
                some (thrSetCall cls ref (thr1 ++ [0] ++ thr2) store)
            | some (store, _, _) => some store
            | none => none
        | some (store, _, _) => some store
        | none => none
    | (store, _, _) => some store

/-! ## set_action_handle -/

/-- `msg->set.attr_mask`. -/
def setAttrMask (msg : OmciMsg) : AttrMask := msg.field16 0

/-- `msg->set.values`. -/
def setValues (msg : OmciMsg) : Buffer := fun i => msg.octet (2 + i)

/-- `sizeof(msg->set.values)`. -/
def setValuesSize : Nat := 30

def MeClass.setRefused (cls : MeClass ω) (attrMask : AttrMask) : Bool :=
  attrMask &&& cls.invAttrMask != 0 || attrMask &&& cls.optAttrMask != 0 ||
    (attrMask ^^^ cls.wrAttrMask) &&& attrMask != 0

/-- The response to a SET with failed attributes. -/
def setRspFailed (cls : MeClass ω) (rsp : OmciMsg) (result : Byte)
    (attrExecMask optAttrMask : AttrMask) : OmciMsg :=
  ((rsp.withResult result).write 3 (octets16 attrExecMask)).write 1
    (octets16 (optAttrMask &&& cls.optAttrMask ^^^ cls.optAttrMask))

/-- The answer if validation fails. -/
def setValidate (cls : MeClass ω) (store : Store ω) (attrMask : AttrMask) (updData : Buffer)
    (rsp : OmciMsg) : Option (OmciError × OmciMsg) :=
  match cls.validate with
  | none => none
  | some validate =>
      let (err, execMask) := validate store updData
      if err != .success then some (err, rsp.withResult mrCmdError)
      else if execMask &&& attrMask != 0 then
        some (.action, setRspFailed cls rsp mrParamError (execMask &&& attrMask) execMask)
      else if execMask != 0 then some (.action, rsp.withResult mrCmdError)
      else none

def setUpdate (update : UpdateHandler ω) (me : MeEntry) (store : Store ω) (updData : Buffer)
    (attrMask : AttrMask) : Store ω × OmciError × Buffer :=
  if me.active then update me.ref store updData attrMask else (store, .success, updData)

/-- Call `pm_me_thr_set` if the thresholds of a PM entity are set. -/
def setThresholds (table : ClassTable ω) (ctx : Context ω) (cls : MeClass ω) (ref : MeRef)
    (attrMask : AttrMask) (store : Store ω) : Option (Store ω) :=
  if hasProp cls.prop MeProp.pm && attrMask.has omciMePmThrDataId then
    pmMeThrSet table ctx cls ref store
  else some store

/-- `memcpy(me->data, upd_data, me->class->data_size)`. -/
def Store.copyData (store : Store ω) (cls : MeClass ω) (ref : MeRef) (updData : Buffer) : Store ω :=
  store.modify ref fun data => patch data 0 (slice updData 0 cls.dataSize)

/-- `set_action_handle`; `none` if an assertion fails. The three checks of the mask have the
same answer. -/
def setActionHandle (table : ClassTable ω) (ctx : Context ω) (cls : MeClass ω) (me : MeEntry)
    (msg rsp : OmciMsg) : Option (ActionResult (Context ω)) :=
  match cls.update with
  | none => none
  | some update =>
      let attrMask := setAttrMask msg
      let store := ctx.handlerStore
      if cls.setRefused attrMask then
        some ⟨ctx, .action, setRspFailed cls rsp mrAttrFailed attrMask attrMask⟩
      else if attrMask = 0#16 then none
      else
        match meDataFetch cls me.ref store attrMask (setValues msg) setValuesSize attrMask with
        | (.success, updData) =>
            if !isDataUpdated cls (store.me me.ref) updData attrMask then
              some ⟨ctx, .success, rsp.withResult mrCmdSuccess⟩
            else
              match setValidate cls store attrMask updData rsp with
              | some (err, rsp) => some ⟨ctx, err, rsp⟩
              | none =>
                  let (store, err, updData) := setUpdate update me store updData attrMask
                  match setThresholds table ctx cls me.ref attrMask store with
                  | none => none
                  | some store =>
                      if err != .success then
                        some ⟨{ ctx with store := store }, .action,
                          (rsp.withResult mrParamError).write 3 (octets16 attrMask)⟩
                      else
                        some ⟨{ ctx with store := store.copyData cls me.ref updData }, .success,
                          rsp.withResult mrCmdSuccess⟩
        | (err, _) => some ⟨ctx, err, rsp.withResult mrCmdError⟩

/-! ## What a SET is to do -/

def MeClass.Disjoint (cls : MeClass ω) (attr other : Attr) : Prop :=
  (cls.attrs attr).offset + (cls.attrs attr).size ≤ (cls.attrs other).offset ∨
    (cls.attrs other).offset + (cls.attrs other).size ≤ (cls.attrs attr).offset

instance (cls : MeClass ω) (attr other : Attr) : Decidable (cls.Disjoint attr other) :=
  inferInstanceAs (Decidable (_ ∨ _))

section Correct

variable (table : ClassTable ω) (ctx : Context ω) (cls : MeClass ω) (me : MeEntry)
  (msg rsp : OmciMsg)

/-- The value the message carries for an attribute of its mask: the values stand in
ascending order of the attributes. -/
def setValue (attr : Attr) : List Byte :=
  slice (setValues msg) (cls.offsetIn (setAttrMask msg) attr) (cls.attrs attr).size

def setExpected (attr : Attr) : List Byte :=
  if (setAttrMask msg).has attr then setValue cls msg attr
  else cls.attrValue attr (ctx.store.me me.ref).bytes

/-- A SET that is answered with success has replaced the attributes of its mask by the
values of the message, any other has replaced nothing. -/
structure SetCorrect (result : ActionResult (Context ω)) : Prop where
  success : result.rsp.result = mrCmdSuccess → ∀ attr,
    cls.attrValue attr (result.state.store.me me.ref).bytes = setExpected ctx cls me msg attr
  failure : result.rsp.result ≠ mrCmdSuccess → ∀ attr,
    cls.attrValue attr (result.state.store.me me.ref).bytes =
      cls.attrValue attr (ctx.store.me me.ref).bytes

/-- What comes in place of an attribute of the mask: what its get handler answers to the value that
stands there, or the value of the message. -/
def setDelivery (attr : Attr) (standing : List Byte) : OmciError × List Byte :=
  match (cls.attrs attr).get with
  | some get => get.run me.ref ctx.handlerStore standing
  | none => (.success, setValue cls msg attr)

/-- Data with what comes in place of these attributes, unless a get handler fails. -/
def setCopy : List Attr → Buffer → Option Buffer
  | [], copy => some copy
  | attr :: attrs, copy =>
      match setDelivery ctx cls me msg attr (cls.attrValue attr copy) with
      | (.success, value) => setCopy attrs (patch copy (cls.attrs attr).offset value)
      | _ => none

/-- The message asks for what may be set and has room for it, no get handler fails, and this is
the stored data with what comes in place of the attributes. -/
structure SetTaken (copy : Buffer) : Prop where
  granted : cls.setRefused (setAttrMask msg) = false
  nonzero : setAttrMask msg ≠ 0#16
  fits : (((List.finRange 16).filter (setAttrMask msg).has).map
    fun attr => (cls.attrs attr).size).sum ≤ setValuesSize
  copied : setCopy ctx cls me msg ((List.finRange 16).filter (setAttrMask msg).has)
    (ctx.store.me me.ref).bytes = some copy

/-- The validate handler has no objections. -/
def MeClass.isValid (store : Store ω) (updData : Buffer) : Bool :=
  match cls.validate with
  | some validate => validate store updData == (.success, 0)
  | none => true

/-- The copy differs and is valid, and the update handler ends with this error and leaves this copy
and, together with the threshold update, this store. -/
structure SetTried (copy : Buffer) (err : OmciError) (store : Store ω) (copy' : Buffer) : Prop where
  taken : SetTaken ctx cls me msg copy
  updated : isDataUpdated cls (ctx.store.me me.ref) copy (setAttrMask msg) = true
  valid : cls.isValid ctx.handlerStore copy = true
  tried : ∃ update store', cls.update = some update ∧
    setUpdate update me ctx.handlerStore copy (setAttrMask msg) = (store', err, copy') ∧
    setThresholds table ctx cls me.ref (setAttrMask msg) store' = some store

/-- Neither a get handler nor the update handler comes between the message and the stored
attributes. -/
structure SetSafe : Prop where
  /-- If what comes in place looks like the stored attributes the message carries these. -/
  same : ∀ copy, SetTaken ctx cls me msg copy →
    isDataUpdated cls (ctx.store.me me.ref) copy (setAttrMask msg) = false →
    ∀ attr, (setAttrMask msg).has attr = true →
      setValue cls msg attr = cls.attrValue attr (ctx.store.me me.ref).bytes
  /-- An update handler that fails leaves the stored attributes alone. -/
  failed : ∀ copy err store copy', SetTried table ctx cls me msg copy err store copy' →
    err ≠ .success → ∀ attr, cls.attrValue attr (store.me me.ref).bytes =
      cls.attrValue attr (ctx.store.me me.ref).bytes
  /-- One that succeeds leaves a copy with the values of the message. -/
  copied : ∀ copy store copy', SetTried table ctx cls me msg copy .success store copy' →
    ∀ attr, cls.attrValue attr copy' = setExpected ctx cls me msg attr

/-- The attributes of the mask overlap with no other. -/
def MeClass.Separate (cls : MeClass ω) (mask : AttrMask) : Prop :=
  ∀ attr other, mask.has attr = true → attr ≠ other → cls.Disjoint attr other

/-- The update handler changes neither the copy nor, on its own, the data of the entity, and no
thresholds are set. -/
structure UpdateTidy : Prop where
  copy : ∀ update ∈ cls.update, ∀ store data,
    (update me.ref store data (setAttrMask msg)).2.2 = data
  data : ∀ update ∈ cls.update, ∀ store data,
    (update me.ref store data (setAttrMask msg)).1.me me.ref = store.me me.ref
  thresholds : (hasProp cls.prop MeProp.pm && (setAttrMask msg).has omciMePmThrDataId) = false

/-- Unless the SET is refused, the get handlers of the attributes of the mask answer with the values
of the message. -/
def GetsEcho : Prop :=
  ∀ copy, SetTaken ctx cls me msg copy →
    (isDataUpdated cls (ctx.store.me me.ref) copy (setAttrMask msg) = true →
      cls.isValid ctx.handlerStore copy = true ∧ ∀ update ∈ cls.update,
        (setUpdate update me ctx.handlerStore copy (setAttrMask msg)).2.1 = .success) →
    ∀ attr get, (setAttrMask msg).has attr = true → (cls.attrs attr).get = some get →
      (get.run me.ref ctx.handlerStore (cls.attrValue attr (ctx.store.me me.ref).bytes)).2 =
        setValue cls msg attr

/-- The ways a SET can end. -/
inductive SetEnded : Option (ActionResult (Context ω)) → Prop
  | aborted : SetEnded none
  | refused (rsp : OmciMsg) (err : OmciError) (hresult : rsp.result ≠ mrCmdSuccess) :
      SetEnded (some ⟨ctx, err, rsp⟩)
  | same (updData : Buffer) (rsp : OmciMsg) (htaken : SetTaken ctx cls me msg updData)
      (hsame : isDataUpdated cls (ctx.store.me me.ref) updData (setAttrMask msg) = false)
      (hresult : rsp.result = mrCmdSuccess) : SetEnded (some ⟨ctx, .success, rsp⟩)
  | failed (updData : Buffer) (err : OmciError) (store : Store ω) (updData' : Buffer)
      (rsp : OmciMsg) (htried : SetTried table ctx cls me msg updData err store updData')
      (herr : err ≠ .success) (hresult : rsp.result ≠ mrCmdSuccess) :
      SetEnded (some ⟨{ ctx with store := store }, .action, rsp⟩)
  | copied (updData : Buffer) (store : Store ω) (updData' : Buffer) (rsp : OmciMsg)
      (htried : SetTried table ctx cls me msg updData .success store updData')
      (hresult : rsp.result = mrCmdSuccess) :
      SetEnded (some ⟨{ ctx with store := store.copyData cls me.ref updData' }, .success, rsp⟩)

end Correct

section Ended

variable {table : ClassTable ω} {ctx : Context ω} {cls : MeClass ω} {me : MeEntry}
  {msg rsp : OmciMsg}

/-- An attribute behind others of the mask. -/
theorem offsetIn_eq_of_append {mask : AttrMask} {done rest : List Attr} {attr : Attr}
    (hsplit : done ++ attr :: rest = List.finRange 16) :
    cls.offsetIn mask attr =
      ((done.filter fun other => mask.has other).map fun other => (cls.attrs other).size).sum := by
  have hsorted := List.pairwise_lt_finRange 16
  rw [← hsplit] at hsorted
  obtain ⟨_, hrest, hdone⟩ := List.pairwise_append.mp hsorted
  obtain ⟨hattr, _⟩ := List.pairwise_cons.mp hrest
  have hbefore : ∀ other ∈ done, decide (other < attr) = true := fun other hother =>
    decide_eq_true (hdone other hother attr List.mem_cons_self)
  have hbehind : ∀ other ∈ attr :: rest, decide (other < attr) = false := by
    intro other hother
    rcases List.mem_cons.mp hother with rfl | hmem
    · exact decide_eq_false (lt_irrefl _)
    · exact decide_eq_false (hattr other hmem).not_gt
  have hfilter : (List.finRange 16).filter (fun other => mask.has other && decide (other < attr)) =
      done.filter fun other => mask.has other := by
    rw [← hsplit, List.filter_append]
    have hempty : (attr :: rest).filter
        (fun other => mask.has other && decide (other < attr)) = [] := by
      apply List.filter_eq_nil_iff.mpr
      intro other hother
      simp [hbehind other hother]
    rw [hempty, List.append_nil]
    apply List.filter_congr
    intro other hother
    rw [hbefore other hother, Bool.and_true]
  rw [MeClass.offsetIn, hfilter]

/-- Fetching succeeds with the copy if the values fit and no get handler fails. -/
theorem fetchAttrs_eq_success_iff {done attrs : List Attr} (hsplit : done ++ attrs = List.finRange 16)
    (hfit : ((done.filter (setAttrMask msg).has).map fun attr => (cls.attrs attr).size).sum ≤
      setValuesSize) (copy : Buffer) {updData : Buffer} :
    fetchAttrs cls me.ref ctx.handlerStore (setAttrMask msg) (setValues msg) setValuesSize
        (setAttrMask msg) attrs
        ((done.filter (setAttrMask msg).has).map fun attr => (cls.attrs attr).size).sum copy =
        (.success, updData) ↔
      (((done ++ attrs).filter (setAttrMask msg).has).map fun attr => (cls.attrs attr).size).sum ≤
          setValuesSize ∧
        setCopy ctx cls me msg (attrs.filter (setAttrMask msg).has) copy = some updData := by
  induction attrs generalizing done copy with
  | nil => simp [fetchAttrs, setCopy, hfit]
  | cons head rest ih =>
      have hsplit' : (done ++ [head]) ++ rest = List.finRange 16 := by simpa using hsplit
      have hoffset : cls.offsetIn (setAttrMask msg) head = _ := offsetIn_eq_of_append hsplit
      have ih' := ih hsplit'
      rw [List.append_assoc, List.singleton_append] at ih'
      rw [fetchAttrs]
      cases hmask : (setAttrMask msg).has head with
      | false => simpa [hmask] using ih' (by simpa [hmask] using hfit) copy
      | true =>
          simp only [Bool.not_true, Bool.false_eq_true, if_false, if_true]
          by_cases hbound : setValuesSize < ((done.filter (setAttrMask msg).has).map
              fun attr => (cls.attrs attr).size).sum + (cls.attrs head).size
          · rw [if_pos hbound]
            refine iff_of_false (by simp) fun h => absurd h.1 ?_
            simp only [List.filter_append, List.filter_cons, hmask, if_true, List.map_append,
              List.map_cons, List.sum_append, List.sum_cons]
            omega
          · have hnext := ih' (by simpa [hmask] using Nat.le_of_not_lt hbound)
            simp only [List.filter_append, hmask, List.map_append, List.sum_append,
              List.filter_cons, if_true] at hnext ⊢
            rw [if_neg hbound, setCopy, setDelivery, setValue, hoffset]
            cases (cls.attrs head).get with
            | none => exact hnext _
            | some get =>
                dsimp only
                rw [MeClass.attrValue]
                generalize get.run me.ref ctx.handlerStore _ = result
                obtain ⟨err, value⟩ := result
                cases err with
                | success => exact hnext _
                | _ => simp

/-- The SET passes the checks where they are, and `me_data_fetch` makes the copy. -/
theorem setTaken_iff {copy : Buffer} : SetTaken ctx cls me msg copy ↔
    cls.setRefused (setAttrMask msg) = false ∧ setAttrMask msg ≠ 0#16 ∧
      meDataFetch cls me.ref ctx.handlerStore (setAttrMask msg) (setValues msg) setValuesSize
        (setAttrMask msg) = (.success, copy) := by
  have hfetch := @fetchAttrs_eq_success_iff _ ctx cls me msg [] _ (List.nil_append _)
    (Nat.zero_le _) (ctx.store.me me.ref).bytes copy
  rw [meDataFetch]
  constructor
  · exact fun h => ⟨h.granted, h.nonzero, hfetch.mpr ⟨h.fits, h.copied⟩⟩
  · rintro ⟨hgranted, hnonzero, hsuccess⟩
    exact ⟨hgranted, hnonzero, (hfetch.mp hsuccess).1, (hfetch.mp hsuccess).2⟩

theorem result_setRspFailed (cls : MeClass ω) (rsp : OmciMsg) (result : Byte)
    (attrExecMask optAttrMask : AttrMask) :
    (setRspFailed cls rsp result attrExecMask optAttrMask).result = result := by
  rw [setRspFailed, OmciMsg.result_write _ _ (by decide), OmciMsg.result_write _ _ (by decide),
    OmciMsg.result_withResult]

variable {updData : Buffer}

/-- Validation that fails is not answered with success. -/
theorem result_of_setValidate {store : Store ω} {attrMask : AttrMask}
    {err : OmciError} {rsp' : OmciMsg}
    (h : setValidate cls store attrMask updData rsp = some (err, rsp')) :
    rsp'.result ≠ mrCmdSuccess := by
  rw [setValidate] at h
  split at h
  · cases h
  · dsimp only at h
    split at h
    · cases h
      rw [OmciMsg.result_withResult]
      decide
    · split at h
      · cases h
        rw [result_setRspFailed]
        decide
      · split at h
        · cases h
          rw [OmciMsg.result_withResult]
          decide
        · cases h

theorem setValidate_eq_none_iff {store : Store ω} {attrMask : AttrMask} :
    setValidate cls store attrMask updData rsp = none ↔ cls.isValid store updData = true := by
  rw [setValidate, MeClass.isValid]
  cases cls.validate with
  | none => exact iff_of_true rfl rfl
  | some validate =>
      dsimp only
      obtain ⟨err, execMask⟩ := validate store updData
      cases err with
      | success =>
          by_cases hzero : execMask = 0#16
          · simp [hzero]
          · by_cases hmask : execMask &&& attrMask = 0#16 <;> simp [hzero, hmask]
      | _ => simp

/-- `set_action_handle` ends in one of these ways. -/
theorem setActionHandle_ended (table : ClassTable ω) (ctx : Context ω) (cls : MeClass ω)
    (me : MeEntry) (msg rsp : OmciMsg) :
    SetEnded table ctx cls me msg (setActionHandle table ctx cls me msg rsp) := by
  rw [setActionHandle]
  cases hupdate : cls.update with
  | none => exact .aborted
  | some update =>
      dsimp only
      split
      · apply SetEnded.refused
        rw [result_setRspFailed]
        decide
      · rename_i hrefused
        split
        · exact .aborted
        · rename_i hmask
          split
          · rename_i updData hfetch
            have htaken : SetTaken ctx cls me msg updData :=
              setTaken_iff.mpr ⟨by simpa using hrefused, hmask, hfetch⟩
            split
            · rename_i hsame
              apply SetEnded.same updData _ htaken
              · simpa using hsame
              · rw [OmciMsg.result_withResult]
            · rename_i hupdated
              split
              · rename_i err rsp' hvalidate
                exact .refused _ _ (result_of_setValidate hvalidate)
              · rename_i hvalidate
                generalize htry : setUpdate update me ctx.handlerStore updData
                  (setAttrMask msg) = result
                obtain ⟨store', err, updData'⟩ := result
                dsimp only
                split
                · exact .aborted
                · rename_i store hthresholds
                  have htried : SetTried table ctx cls me msg updData err store updData' :=
                    ⟨htaken, by simpa using hupdated, setValidate_eq_none_iff.mp hvalidate,
                      update, store', hupdate, htry, hthresholds⟩
                  split
                  · rename_i herr
                    apply SetEnded.failed updData err store updData' _ htried
                    · simpa using herr
                    · rw [OmciMsg.result_write _ _ (by decide), OmciMsg.result_withResult]
                      decide
                  · rename_i herr
                    have herr' : err = .success := by simpa using herr
                    subst herr'
                    apply SetEnded.copied updData store updData' _ htried
                    rw [OmciMsg.result_withResult]
          · apply SetEnded.refused
            rw [OmciMsg.result_withResult]
            decide

theorem setActionHandle_of_same (hupdate : cls.update.isSome = true)
    (htaken : SetTaken ctx cls me msg updData)
    (hsame : isDataUpdated cls (ctx.store.me me.ref) updData (setAttrMask msg) = false)
    (table : ClassTable ω) (rsp : OmciMsg) :
    setActionHandle table ctx cls me msg rsp =
      some ⟨ctx, .success, rsp.withResult mrCmdSuccess⟩ := by
  obtain ⟨update, hupdate⟩ := Option.isSome_iff_exists.mp hupdate
  obtain ⟨hgranted, hnonzero, hfetch⟩ := setTaken_iff.mp htaken
  rw [setActionHandle, hupdate]
  simp [hgranted, hnonzero, hfetch, hsame]

theorem setActionHandle_of_tried {updData' : Buffer} {err : OmciError} {store : Store ω}
    (htried : SetTried table ctx cls me msg updData err store updData') (rsp : OmciMsg) :
    setActionHandle table ctx cls me msg rsp =
      if err != .success then
        some ⟨{ ctx with store := store }, .action,
          (rsp.withResult mrParamError).write 3 (octets16 (setAttrMask msg))⟩
      else
        some ⟨{ ctx with store := store.copyData cls me.ref updData' }, .success,
          rsp.withResult mrCmdSuccess⟩ := by
  obtain ⟨htaken, hupdated, hvalid, update, store', hupdate, htry, hthresholds⟩ := htried
  obtain ⟨hgranted, hnonzero, hfetch⟩ := setTaken_iff.mp htaken
  rw [setActionHandle, hupdate]
  simp [hgranted, hnonzero, hfetch, hupdated, setValidate_eq_none_iff.mpr hvalid, htry, hthresholds]

theorem MeClass.bounds_of_isAccepted (haccepted : cls.isAccepted = true) (attr : Attr) :
    (cls.attrs attr).size = 0 ∨ (cls.attrs attr).offset + (cls.attrs attr).size ≤ cls.dataSize := by
  simp only [MeClass.isAccepted, Bool.and_eq_true, List.all_eq_true, List.mem_finRange,
    true_implies, Bool.or_eq_true, beq_iff_eq, decide_eq_true_eq] at haccepted
  obtain ⟨⟨⟨hbounds, hsum⟩, _⟩, _⟩ := haccepted
  rcases hbounds attr with hzero | ⟨hbound, _⟩
  · -- the sizes add up to zero
    left
    rw [hzero] at hsum
    have hmem : (cls.attrs attr).size ∈ (List.finRange 16).map fun other => (cls.attrs other).size :=
      List.mem_map_of_mem (List.mem_finRange attr)
    exact List.sum_eq_zero_iff_forall_eq_nat.mp hsum _ hmem
  · exact Or.inr hbound

theorem attrValue_copyData (haccepted : cls.isAccepted = true) (store : Store ω) (ref : MeRef)
    (updData : Buffer) (attr : Attr) :
    cls.attrValue attr ((store.copyData cls ref updData).me ref).bytes =
      cls.attrValue attr updData := by
  rw [Store.copyData, Store.modify_bytes]
  apply slice_eq_iff.mpr
  intro i hi
  have hbound : (cls.attrs attr).offset + i < cls.dataSize := by
    rcases MeClass.bounds_of_isAccepted haccepted attr with hzero | hbound <;> omega
  simp [patch, slice, hbound]

/-- A SET that ends in one of these ways does what its answer says if it is safe. -/
theorem SetEnded.correct (haccepted : cls.isAccepted = true)
    (hsafe : SetSafe table ctx cls me msg) {result : ActionResult (Context ω)}
    (hended : SetEnded table ctx cls me msg (some result)) : SetCorrect ctx cls me msg result := by
  cases hended with
  | refused rsp err hresult => exact ⟨fun h => absurd h hresult, fun _ _ => rfl⟩
  | same updData rsp htaken hsame hresult =>
      constructor
      · intro _ attr
        rw [setExpected]
        split
        · rename_i hattr
          exact (hsafe.same updData htaken hsame attr hattr).symm
        · rfl
      · exact fun h => absurd hresult h
  | failed updData err store updData' rsp htried herr hresult =>
      exact ⟨fun h => absurd h hresult, fun _ => hsafe.failed updData err store updData' htried herr⟩
  | copied updData store updData' rsp htried hresult =>
      constructor
      · intro _ attr
        exact (attrValue_copyData haccepted store me.ref updData' attr).trans
          (hsafe.copied updData store updData' htried attr)
      · exact fun h => absurd hresult h

theorem setActionHandle_correct (haccepted : cls.isAccepted = true)
    (hsafe : SetSafe table ctx cls me msg) {result : ActionResult (Context ω)}
    (hresult : setActionHandle table ctx cls me msg rsp = some result) :
    SetCorrect ctx cls me msg result := by
  have hended := setActionHandle_ended table ctx cls me msg rsp
  rw [hresult] at hended
  exact hended.correct haccepted hsafe

theorem update_isSome_of_isAccepted (haccepted : cls.isAccepted = true) :
    cls.update.isSome = true := by
  simp only [MeClass.isAccepted, Bool.and_eq_true] at haccepted
  exact haccepted.2

theorem setSafe_of_correct (haccepted : cls.isAccepted = true)
    (hcorrect : ∀ result, setActionHandle table ctx cls me msg rsp = some result →
      SetCorrect ctx cls me msg result) : SetSafe table ctx cls me msg := by
  constructor
  · intro copy htaken hsame attr hattr
    have hset := hcorrect _
      (setActionHandle_of_same (update_isSome_of_isAccepted haccepted) htaken hsame table rsp)
    have hvalue := hset.success (OmciMsg.result_withResult _ _) attr
    rw [setExpected, if_pos hattr] at hvalue
    exact hvalue.symm
  · intro copy err store copy' htried herr
    have hset := setActionHandle_of_tried htried rsp
    rw [if_pos (by simpa using herr)] at hset
    apply (hcorrect _ hset).failure
    rw [OmciMsg.result_write _ _ (by decide), OmciMsg.result_withResult]
    decide
  · intro copy store copy' htried attr
    have hset := setActionHandle_of_tried htried rsp
    rw [if_neg (by simp)] at hset
    have hvalue := (hcorrect _ hset).success (OmciMsg.result_withResult _ _) attr
    rw [attrValue_copyData haccepted] at hvalue
    exact hvalue

end Ended

/-! ## Attributes of their own -/

section Separate

variable {table : ClassTable ω} {ctx : Context ω} {cls : MeClass ω} {me : MeEntry} {msg : OmciMsg}
  {copy : Buffer}

theorem length_setDelivery {attr : Attr} {standing : List Byte}
    (hlength : standing.length = (cls.attrs attr).size) :
    (setDelivery ctx cls me msg attr standing).2.length = (cls.attrs attr).size := by
  rw [setDelivery]
  split
  · rename_i get _
    rw [get.length, hlength]
  · rw [setValue, length_slice]

theorem attrValue_setCopy (hseparate : cls.Separate (setAttrMask msg)) {attrs : List Attr}
    (hnodup : attrs.Nodup) (hmask : ∀ attr ∈ attrs, (setAttrMask msg).has attr = true)
    {copy' : Buffer} (hcopy : setCopy ctx cls me msg attrs copy = some copy') (attr : Attr) :
    cls.attrValue attr copy' =
      if attr ∈ attrs then (setDelivery ctx cls me msg attr (cls.attrValue attr copy)).2
      else cls.attrValue attr copy := by
  induction attrs generalizing copy with
  | nil =>
      cases hcopy
      rfl
  | cons head rest ih =>
      obtain ⟨hhead, hrest⟩ := List.nodup_cons.mp hnodup
      have hlength := @length_setDelivery _ ctx cls me msg head (cls.attrValue head copy)
        (length_slice _ _ _)
      rw [setCopy] at hcopy
      generalize hdelivery : setDelivery ctx cls me msg head (cls.attrValue head copy) = delivery
        at hcopy hlength
      obtain ⟨err, value⟩ := delivery
      cases err with
      | success =>
          rw [ih hrest (fun other hother => hmask other (List.mem_cons_of_mem _ hother)) hcopy]
          by_cases hattr : attr = head
          · subst hattr
            rw [if_neg hhead, if_pos List.mem_cons_self, hdelivery]
            exact slice_patch_self _ _ _ hlength
          · have hsame : cls.attrValue attr (patch copy (cls.attrs head).offset value) =
                cls.attrValue attr copy := by
              apply slice_patch_of_disjoint
              rw [show value.length = _ from hlength]
              exact (hseparate head attr (hmask head List.mem_cons_self) (Ne.symm hattr)).symm
            simp [hsame, hattr]
      | _ => cases hcopy

/-- What comes in place of the attributes of the mask stands in the copy. -/
theorem SetTaken.attrValue (htaken : SetTaken ctx cls me msg copy)
    (hseparate : cls.Separate (setAttrMask msg)) (attr : Attr) : cls.attrValue attr copy =
      if (setAttrMask msg).has attr then
        (setDelivery ctx cls me msg attr (cls.attrValue attr (ctx.store.me me.ref).bytes)).2
      else cls.attrValue attr (ctx.store.me me.ref).bytes := by
  have hvalue := attrValue_setCopy hseparate ((List.nodup_finRange 16).filter _)
    (fun attr hattr => (List.mem_filter.mp hattr).2) htaken.copied attr
  simpa using hvalue

/-- Without a difference that `is_data_updated` sees the copy has the stored values. -/
theorem attrValue_of_isDataUpdated {data : MeData} {updData : Buffer} {attrMask : AttrMask}
    (h : isDataUpdated cls data updData attrMask = false) {attr : Attr}
    (hattr : attrMask.has attr = true) :
    cls.attrValue attr updData = cls.attrValue attr data.bytes := by
  simp only [isDataUpdated, Bool.or_eq_false_iff, List.any_eq_false, List.mem_finRange,
    true_implies] at h
  have hboth : hasProp (cls.attrs attr).prop AttrProp.table = false ∧
      cls.attrValue attr updData = cls.attrValue attr data.bytes := by
    simpa [hattr] using h.2 attr
  exact hboth.2

/-- Where get handlers echo the message the copy is as the message asks. -/
theorem SetTaken.attrValue_expected (htaken : SetTaken ctx cls me msg copy)
    (hseparate : cls.Separate (setAttrMask msg))
    (hecho : ∀ attr get, (setAttrMask msg).has attr = true → (cls.attrs attr).get = some get →
      (get.run me.ref ctx.handlerStore (cls.attrValue attr (ctx.store.me me.ref).bytes)).2 =
        setValue cls msg attr) (attr : Attr) :
    cls.attrValue attr copy = setExpected ctx cls me msg attr := by
  rw [htaken.attrValue hseparate, setExpected]
  split
  · rename_i hattr
    rw [setDelivery]
    cases hget : (cls.attrs attr).get with
    | none => rfl
    | some get => exact hecho attr get hattr hget
  · rfl

/-- What a tidy update handler leaves. -/
theorem UpdateTidy.setUpdate (htidy : UpdateTidy cls me msg) {update : UpdateHandler ω}
    (hupdate : cls.update = some update) (store : Store ω) (copy : Buffer) :
    (setUpdate update me store copy (setAttrMask msg)).2.2 = copy ∧
      (setUpdate update me store copy (setAttrMask msg)).1.me me.ref = store.me me.ref := by
  rw [Omci.setUpdate]
  split
  · exact ⟨htidy.copy update hupdate store copy, htidy.data update hupdate store copy⟩
  · exact ⟨rfl, rfl⟩

theorem SetTried.tidy (htidy : UpdateTidy cls me msg) {err : OmciError} {store : Store ω}
    {copy' : Buffer} (htried : SetTried table ctx cls me msg copy err store copy') :
    copy' = copy ∧ store.me me.ref = ctx.store.me me.ref := by
  obtain ⟨update, store', hupdate, htry, hthresholds⟩ := htried.tried
  have hleft := htidy.setUpdate hupdate ctx.handlerStore copy
  rw [htry] at hleft
  rw [setThresholds, htidy.thresholds] at hthresholds
  obtain rfl : store' = store := by simpa using hthresholds
  exact hleft

/-- Between separate attributes and a tidy update handler only get handlers can come. -/
theorem setSafe_iff_getsEcho (haccepted : cls.isAccepted = true)
    (hseparate : cls.Separate (setAttrMask msg)) (htidy : UpdateTidy cls me msg) :
    SetSafe table ctx cls me msg ↔ GetsEcho ctx cls me msg := by
  constructor
  · intro hsafe copy htaken hgoes attr get hattr hget
    have hvalue := htaken.attrValue hseparate attr
    rw [if_pos hattr, setDelivery, hget] at hvalue
    rw [← hvalue]
    cases hupdated : isDataUpdated cls (ctx.store.me me.ref) copy (setAttrMask msg) with
    | false =>
        rw [hsafe.same copy htaken hupdated attr hattr]
        exact attrValue_of_isDataUpdated hupdated hattr
    | true =>
        obtain ⟨hvalid, hsuccess⟩ := hgoes hupdated
        obtain ⟨update, hupdate⟩ :=
          Option.isSome_iff_exists.mp (update_isSome_of_isAccepted haccepted)
        have hleft := htidy.setUpdate hupdate ctx.handlerStore copy
        have hcopied := hsafe.copied copy
          (Omci.setUpdate update me ctx.handlerStore copy (setAttrMask msg)).1 copy
          ⟨htaken, hupdated, hvalid, update, _, hupdate,
            Prod.ext rfl (Prod.ext (hsuccess update hupdate) hleft.1),
            by rw [setThresholds, htidy.thresholds]; rfl⟩ attr
        rw [hcopied, setExpected, if_pos hattr]
  · intro hecho
    constructor
    · intro copy htaken hsame attr hattr
      have hvalue := htaken.attrValue_expected hseparate
        (hecho copy htaken fun hupdated => absurd (hsame.symm.trans hupdated) Bool.false_ne_true) attr
      rw [setExpected, if_pos hattr] at hvalue
      rw [← hvalue]
      exact attrValue_of_isDataUpdated hsame hattr
    · intro copy err store copy' htried _ attr
      rw [(htried.tidy htidy).2]
    · intro copy store copy' htried attr
      rw [(htried.tidy htidy).1]
      refine htried.taken.attrValue_expected hseparate
        (hecho copy htried.taken fun _ => ⟨htried.valid, fun update hupdate => ?_⟩) attr
      obtain ⟨update', store', hupdate', htry, _⟩ := htried.tried
      obtain rfl := Option.some.inj (hupdate'.symm.trans hupdate)
      rw [htry]

/-- For attributes that overlap with no other, and an update handler that changes neither the copy nor
the data, a SET does what its answer says exactly when the get handlers of the attributes of the
mask answer with the values of the message, unless the SET is refused. In general it does so exactly
when neither a get handler nor the update handler comes between the message and the stored
attributes. -/
theorem setActionHandle_correct_iff (table : ClassTable ω) (ctx : Context ω) {cls : MeClass ω}
    (haccepted : cls.isAccepted = true) (me : MeEntry) (msg rsp : OmciMsg) :
    (cls.Separate (setAttrMask msg) → UpdateTidy cls me msg →
        ((∀ result, setActionHandle table ctx cls me msg rsp = some result →
          SetCorrect ctx cls me msg result) ↔ GetsEcho ctx cls me msg)) ∧
      ((∀ result, setActionHandle table ctx cls me msg rsp = some result →
        SetCorrect ctx cls me msg result) ↔ SetSafe table ctx cls me msg) := by
  have hiff : (∀ result, setActionHandle table ctx cls me msg rsp = some result →
      SetCorrect ctx cls me msg result) ↔ SetSafe table ctx cls me msg :=
    ⟨setSafe_of_correct haccepted, fun hsafe _ => setActionHandle_correct haccepted hsafe⟩
  exact ⟨fun hseparate htidy => hiff.trans (setSafe_iff_getsEcho haccepted hseparate htidy), hiff⟩

end Separate

/-! ## SET of single attributes -/

/-- A SET message with a value of two octets. -/
def setMsg (classId : ClassId) (instanceId : InstanceId) (attrMask value : BitVec 16) : OmciMsg :=
  (OmciMsg.write
    { header := ⟨1, 0x40 ||| mtSet, omciFormatBaseline, classId, instanceId⟩
      contents := Vector.replicate 32 0 } 0 (octets16 attrMask)).write 2 (octets16 value)

/-- The maximum payload size of a GAL Ethernet profile is stored as the message says. -/
theorem setActionHandle_correct_galEthernetProfile :
    ∃ result, setActionHandle sampleTable (singleMe true 272 1) meGalEthernetProfileClass
        ⟨0, 1, true, true⟩ (setMsg 272 1 0x8000 4095) OmciMsg.zero = some result ∧
      result.rsp.result = mrCmdSuccess ∧
      SetCorrect (singleMe true 272 1) meGalEthernetProfileClass ⟨0, 1, true, true⟩
        (setMsg 272 1 0x8000 4095) result := by
  have hanswer : (setActionHandle sampleTable (singleMe true 272 1) meGalEthernetProfileClass
      ⟨0, 1, true, true⟩ (setMsg 272 1 0x8000 4095) OmciMsg.zero).map
        (fun result => result.rsp.result) = some mrCmdSuccess := by
    decide
  obtain ⟨result, hresult, hsuccess⟩ := Option.map_eq_some_iff.mp hanswer
  have hnone : ∀ attr, (meGalEthernetProfileClass.attrs attr).get.isNone = true := by decide
  refine ⟨result, hresult, hsuccess,
    ((setActionHandle_correct_iff sampleTable (singleMe true 272 1) (by decide) _ _ _).1 ?_ ?_).mpr
      ?_ result hresult⟩
  · intro attr other
    revert attr other
    decide
  · constructor
    · rintro update ⟨⟩ _ _
      rfl
    · rintro update ⟨⟩ _ _
      rfl
    · decide
  · intro _ _ _ attr get _ hget
    have hsome := hnone attr
    rw [hget] at hsome
    cases hsome

/-- The GEM block length of an ANI-G stays what the driver says, although the SET is
answered with success. -/
theorem setActionHandle_not_correct_aniG :
    ∃ result, setActionHandle sampleTable (singleMe true 263 0x8001) meAniGClass
        ⟨0, 0x8001, true, true⟩ (setMsg 263 0x8001 0x2000 64) OmciMsg.zero = some result ∧
      ¬ SetCorrect (singleMe true 263 0x8001) meAniGClass ⟨0, 0x8001, true, true⟩
        (setMsg 263 0x8001 0x2000 64) result := by
  have hanswer : (setActionHandle sampleTable (singleMe true 263 0x8001) meAniGClass
      ⟨0, 0x8001, true, true⟩ (setMsg 263 0x8001 0x2000 64) OmciMsg.zero).map
        (fun result => (result.rsp.result,
          meAniGClass.attrValue 2 (result.state.store.me 0).bytes)) =
            some (mrCmdSuccess, [0, 48]) := by
    decide
  obtain ⟨result, hresult, hvalue⟩ := Option.map_eq_some_iff.mp hanswer
  refine ⟨result, hresult, fun hcorrect => ?_⟩
  obtain ⟨hsuccess, hstored⟩ := Prod.mk.inj hvalue
  have hexpected := hcorrect.success hsuccess 2
  rw [hstored] at hexpected
  revert hexpected
  decide

end FalconGpon.Omci
