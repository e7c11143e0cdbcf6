/-
# How a GET packs values

The answer to a GET that succeeds names the longest prefix of the requested readable
attributes whose sizes fit into the response, and has what `me_data_read` returned for them
one after the other, zeros behind. Each value is read on its own account, at its own time.

What was read is the value of the attribute wherever the attributes stand in the data as
they are looked for. In a class without get handlers it is exactly if each attribute that a
GET can return is intact; the command format of the ONU remote debug entity is not.
-/

import FalconGpon.Lib.Fitting
import FalconGpon.Omci.FailureMasks

namespace FalconGpon.Omci

open FalconGpon.Lib

variable {ω : Type}

/-! ## What the answer is to be -/

def requestedReadable (cls : MeClass ω) (attrMask : AttrMask) (attrs : List Attr) : List Attr :=
  attrs.filter fun attr => attrMask.has attr && cls.isMeAttrExist attr &&
    hasProp (cls.attrs attr).prop AttrProp.rd

/-- One value after the other; reading one may change the store for the next. -/
def valuesOf (cls : MeClass ω) (ref : MeRef) (interval : PmInterval)
    (value : Store ω → Attr → List Byte) : List Attr → Store ω → List Byte
  | [], _ => []
  | attr :: attrs, store =>
      value store attr ++
        valuesOf cls ref interval value attrs (meDataRead cls ref interval store).1

/-- Reading the attributes one after the other succeeds. -/
def ReadsSucceed (cls : MeClass ω) (ref : MeRef) (interval : PmInterval) :
    List Attr → Store ω → Prop
  | [], _ => True
  | _ :: attrs, store =>
      (meDataRead cls ref interval store).2.1 = .success ∧
        ReadsSucceed cls ref interval attrs (meDataRead cls ref interval store).1

/-- What `me_data_read` returns for an attribute. -/
def readValue (cls : MeClass ω) (ref : MeRef) (interval : PmInterval) (store : Store ω)
    (attr : Attr) : List Byte :=
  cls.attrValue attr (meDataRead cls ref interval store).2.2

def valueWhenRead (cls : MeClass ω) (ref : MeRef) (interval : PmInterval) (store : Store ω)
    (attr : Attr) : List Byte :=
  currentValue cls ref (meDataRead cls ref interval store).1 attr

def MeClass.totalSize (cls : MeClass ω) (attrs : List Attr) : Nat :=
  (attrs.map fun attr => (cls.attrs attr).size).sum

/-- The answer names the longest prefix of what was requested that fits, and has the values
of these attributes and zeros behind. -/
structure GetPacking (cls : MeClass ω) (ref : MeRef) (interval : PmInterval)
    (value : Store ω → Attr → List Byte) (attrMask : AttrMask) (store : Store ω) (rsp : OmciMsg)
    (names : List Attr) : Prop where
  isPrefix : names <+: requestedReadable cls attrMask (List.finRange 16)
  fits : cls.totalSize names ≤ getRspValuesSize
  longest : ∀ longer, longer <+: requestedReadable cls attrMask (List.finRange 16) →
    cls.totalSize longer ≤ getRspValuesSize → longer <+: names
  mask : ∀ attr, AttrMask.has (rsp.field16 1) attr = true ↔ attr ∈ names
  values : slice rsp.octet 3 getRspValuesSize = valuesOf cls ref interval value names store ++
    List.replicate (getRspValuesSize - cls.totalSize names) 0

theorem GetPacking.requested {cls : MeClass ω} {ref : MeRef} {interval : PmInterval}
    {value : Store ω → Attr → List Byte} {attrMask : AttrMask} {store : Store ω} {rsp : OmciMsg}
    {names : List Attr}
    (h : GetPacking cls ref interval value attrMask store rsp names) {attr : Attr}
    (hattr : AttrMask.has (rsp.field16 1) attr = true) : attrMask.has attr = true := by
  have hmem := h.isPrefix.subset ((h.mask attr).mp hattr)
  rw [requestedReadable, List.mem_filter, Bool.and_eq_true, Bool.and_eq_true] at hmem
  exact hmem.2.1.1

/-- A GET of attributes that are no tables and fit into a response succeeds with the values
that the attributes have. -/
def GetsCurrent (cls : TblClass ω) : Prop :=
  ∀ ref instanceId env (state : GetState ω) (msg : OmciMsg),
    (getActionHandle cls ref instanceId env state msg (rspCreate msg)).error = .success →
    getTableAttr cls ref env state msg = none →
      ∃ names, GetPacking cls.toMeClass ref (getInterval msg)
        (valueWhenRead cls.toMeClass ref (getInterval msg)) (msg.field16 0)
        (getCounters cls.toMeClass (getInterval msg) env state.store).1
        (getActionHandle cls ref instanceId env state msg (rspCreate msg)).rsp names

/-! ## The loop -/

section Loop

variable {cls : TblClass ω} {ref : MeRef} {instanceId : InstanceId} {attrMask : AttrMask}
  {interval : PmInterval} {env : GetEnv ω}

variable {attrs : List Attr}

theorem valuesOf_congr {value value' : Store ω → Attr → List Byte}
    (h : ∀ attr ∈ attrs, ∀ store, (meDataRead cls.toMeClass ref interval store).2.1 = .success →
        value store attr = value' store attr)
    {store : Store ω} (hreads : ReadsSucceed cls.toMeClass ref interval attrs store) :
    valuesOf cls.toMeClass ref interval value attrs store =
      valuesOf cls.toMeClass ref interval value' attrs store := by
  induction attrs generalizing store with
  | nil => rfl
  | cons attr attrs ih =>
      obtain ⟨hread, hrest⟩ := hreads
      rw [valuesOf, valuesOf, h attr List.mem_cons_self store hread,
        ih (fun other hother => h other (List.mem_cons_of_mem _ hother)) hrest]

theorem length_valuesOf_readValue (attrs : List Attr) (store : Store ω) :
    (valuesOf cls.toMeClass ref interval (readValue cls.toMeClass ref interval) attrs
      store).length = cls.totalSize attrs := by
  induction attrs generalizing store with
  | nil => rfl
  | cons attr attrs ih =>
      rw [valuesOf, List.length_append, ih, readValue, MeClass.attrValue, length_slice,
        MeClass.totalSize, MeClass.totalSize, List.map_cons, List.sum_cons]

variable {state state' : GetState ω} {acc acc' : GetAttrs} {attr : Attr}

/-- The execution mask only grows. -/
theorem getAttrs_execMask
    (hloop : getAttrs cls ref instanceId attrMask interval env attrs state acc =
      .finished state' acc') (hattr : acc.attrExecMask.has attr = true) :
    acc'.attrExecMask.has attr = true := by
  induction attrs generalizing state acc with
  | nil =>
      cases hloop
      exact hattr
  | cons head attrs ih =>
      have hgrown : AttrMask.has (acc.attrExecMask ||| omciAttr2mask head) attr = true := by
        rw [AttrMask.has_or, hattr, Bool.true_or]
      rw [getAttrs] at hloop
      dsimp only at hloop
      split at hloop
      · exact ih hloop hattr
      · split at hloop
        · exact ih hloop hgrown
        · split at hloop
          · exact ih hloop hattr
          · split at hloop
            · exact ih hloop hgrown
            · split at hloop
              · cases hloop
              · split at hloop
                · cases hloop
                  exact hattr
                · split at hloop
                  · exact ih hloop hattr
                  · exact ih hloop hgrown

theorem getAttrs_no_failure
    (hloop : getAttrs cls ref instanceId attrMask interval env attrs state acc =
      .finished state' acc') (hexec : acc'.attrExecMask = 0)
    (hattr : acc.attrExecMask.has attr = true) : False := by
  have hhas := getAttrs_execMask hloop hattr
  rw [hexec] at hhas
  exact Bool.false_ne_true ((AttrMask.has_zero attr).symm.trans hhas)

/-- What the loop packs if it comes to no table and nothing fails. -/
theorem getAttrs_packs
    (hoffset : acc.offset = acc.attrSizeSum) (hsum : acc.attrSizeSum ≤ getRspValuesSize)
    (hloop : getAttrs cls ref instanceId attrMask interval env attrs state acc =
      .finished state' acc') (hexec : acc'.attrExecMask = 0) {names : List Attr}
    (hnames : names = fitting cls.sizes getRspValuesSize
      (requestedReadable cls.toMeClass attrMask attrs) acc.attrSizeSum) :
    (∀ attr, acc'.attrMaskRsp.has attr = true ↔
      acc.attrMaskRsp.has attr = true ∨ attr ∈ names) ∧
      (∀ i < 32, acc'.rsp.octet i = patch acc.rsp.octet (3 + acc.offset)
        (valuesOf cls.toMeClass ref interval (readValue cls.toMeClass ref interval) names
          state.store) i) ∧
      ReadsSucceed cls.toMeClass ref interval names state.store ∧
      ∀ attr ∈ names, hasProp (cls.attrs attr).prop AttrProp.table = false := by
  induction attrs generalizing state acc names with
  | nil =>
      cases hloop
      subst hnames
      refine ⟨fun attr => by simp [requestedReadable, fitting], fun i _ => ?_, trivial, fun _ h => by cases h⟩
      simp [requestedReadable, fitting, valuesOf, patch]
  | cons head attrs ih =>
      -- nothing is put into the execution mask
      have hfailure : ∀ {state : GetState ω} {acc : GetAttrs},
          acc.attrExecMask.has head = true →
          getAttrs cls ref instanceId attrMask interval env attrs state acc ≠
            .finished state' acc' :=
        fun hhas hloop => getAttrs_no_failure hloop hexec hhas
      have hhead : AttrMask.has (acc.attrExecMask ||| omciAttr2mask head) head = true := by
        simp
      rw [getAttrs] at hloop
      dsimp only at hloop
      split at hloop
      · rename_i hhas
        rw [Bool.not_eq_true'] at hhas
        apply ih hoffset hsum hloop
        rw [hnames, requestedReadable, List.filter_cons_of_neg (by simp [hhas])]
        rfl
      · rename_i hhas
        split at hloop
        · exact absurd hloop (hfailure hhead)
        · rename_i hexist
          rw [Bool.not_eq_true', Bool.not_eq_false] at hhas hexist
          have hsupported := MeClass.supported_of_isMeAttrExist _ hexist
          rw [if_neg (by simp [hsupported])] at hloop
          split at hloop
          · exact absurd hloop (hfailure hhead)
          · rename_i hrd
            rw [Bool.not_eq_true', Bool.not_eq_false] at hrd
            have hreadable : requestedReadable cls.toMeClass attrMask (head :: attrs) =
                head :: requestedReadable cls.toMeClass attrMask attrs := by
              rw [requestedReadable, List.filter_cons_of_pos (by simp [hhas, hexist, hrd])]
              rfl
            rw [hreadable, fitting] at hnames
            split at hloop
            · cases hloop
            · rename_i hplain
              rw [Bool.or_eq_true, not_or, Bool.not_eq_true] at hplain
              split at hloop
              · rename_i hfull
                have hempty : names = [] := by
                  rw [hnames]
                  exact if_pos hfull
                cases hloop
                subst hempty
                refine ⟨fun attr => by simp, fun i _ => by simp [valuesOf, patch], trivial, fun _ h => by cases h⟩
              · rename_i hfull
                have hcons : names = head :: fitting cls.sizes getRspValuesSize
                    (requestedReadable cls.toMeClass attrMask attrs)
                    (acc.attrSizeSum + (cls.attrs head).size) := by
                  rw [hnames]
                  exact if_neg hfull
                split at hloop
                · rename_i store data hread
                  obtain ⟨hmask, hoctet, hreads, hplainNames⟩ :=
                    ih (congrArg (· + (cls.attrs head).size) hoffset) (Nat.not_lt.mp hfull) hloop rfl
                  subst hcons
                  have hstore : (meDataRead cls.toMeClass ref interval state.store).1 = store := by
                    rw [hread]
                  refine ⟨fun attr => ?_, fun i hi => ?_, ⟨?_, ?_⟩, fun attr hattr => ?_⟩
                  · rw [hmask attr, AttrMask.has_or, AttrMask.has_omciAttr2mask, Bool.or_eq_true,
                      decide_eq_true_eq, List.mem_cons, or_assoc, @eq_comm _ head attr]
                  · have hvalue : readValue cls.toMeClass ref interval state.store head =
                        cls.attrValue head data := by
                      rw [readValue, hread]
                    rw [hoctet i hi, valuesOf, hvalue, hstore, patch_append, MeClass.attrValue,
                      length_slice, Nat.add_assoc]
                    dsimp only
                    rw [patch, patch, OmciMsg.octet_write _ _ _ hi]
                  · rw [hread]
                  · rw [hstore]
                    exact hreads
                  · rcases List.mem_cons.mp hattr with rfl | hmem
                    · exact Bool.eq_false_iff.mpr hplain.2
                    · exact hplainNames attr hmem
                · exact absurd hloop (hfailure hhead)

end Loop

/-! ## The answer -/

section Answer

variable {cls : TblClass ω} {ref : MeRef} {instanceId : InstanceId} {env : GetEnv ω}
  {state : GetState ω} {msg : OmciMsg}

/-- A GET that succeeds without a table ends behind the loop, in which nothing failed. -/
theorem getActionHandle_succeeded
    (hsuccess : (getActionHandle cls ref instanceId env state msg (rspCreate msg)).error = .success)
    (htable : getTableAttr cls ref env state msg = none) :
    ∃ state' acc,
      getAttrs cls ref instanceId (msg.field16 0) (getInterval msg) env (List.finRange 16)
          { state with
            store := (getCounters cls.toMeClass (getInterval msg) env state.store).1 }
          ⟨0, 0, 0, 0, 0, (rspCreate msg).write 1 (octets16 (msg.field16 0))⟩ =
        .finished state' acc ∧
      acc.attrExecMask = 0 ∧
      (getActionHandle cls ref instanceId env state msg (rspCreate msg)).rsp =
        (acc.rsp.withResult mrCmdSuccess).write 1 (octets16 acc.attrMaskRsp) := by
  rw [getTableAttr] at htable
  rw [getActionHandle] at hsuccess ⊢
  dsimp only at hsuccess ⊢
  generalize getCounters cls.toMeClass (getInterval msg) env state.store = counters
    at hsuccess htable ⊢
  obtain ⟨store, err⟩ := counters
  by_cases herr : err = .success
  · subst herr
    dsimp only at hsuccess htable ⊢
    have hends : LoopEnds cls ref instanceId env state.copies _ _ _ _
        (getAttrs cls ref instanceId (msg.field16 0) (getInterval msg) env (List.finRange 16)
          { state with store := store }
          ⟨0, 0, 0, 0, 0, (rspCreate msg).write 1 (octets16 (msg.field16 0))⟩) :=
      getAttrs_ends (List.finRange 16) { state with store := store } _ le_rfl
    dsimp only at hends
    rw [htable] at hends
    obtain ⟨store', acc, hloop, _, _⟩ := hends
    rw [hloop] at hsuccess ⊢
    refine ⟨_, acc, rfl, ?_⟩
    dsimp only at hsuccess ⊢
    rw [getFinish] at hsuccess ⊢
    split at hsuccess
    · split at hsuccess <;> cases hsuccess
    · rename_i hnone
      rw [if_neg hnone]
      rw [Bool.or_eq_true, not_or, Bool.not_eq_true, bne_eq_false_iff_eq] at hnone
      exact ⟨hnone.1, rfl⟩
  · cases err <;> first
      | exact absurd rfl herr
      | cases hsuccess

/-- It answers with what it has read. -/
theorem getActionHandle_packs
    (hsuccess : (getActionHandle cls ref instanceId env state msg (rspCreate msg)).error = .success)
    (htable : getTableAttr cls ref env state msg = none) :
    ∃ names, GetPacking cls.toMeClass ref (getInterval msg)
        (readValue cls.toMeClass ref (getInterval msg)) (msg.field16 0)
        (getCounters cls.toMeClass (getInterval msg) env state.store).1
        (getActionHandle cls ref instanceId env state msg (rspCreate msg)).rsp names ∧
      ReadsSucceed cls.toMeClass ref (getInterval msg) names
        (getCounters cls.toMeClass (getInterval msg) env state.store).1 ∧
      ∀ attr ∈ names, hasProp (cls.attrs attr).prop AttrProp.table = false := by
  obtain ⟨state', acc, hloop, hexec, hrsp⟩ := getActionHandle_succeeded hsuccess htable
  obtain ⟨hmask, hoctet, hreads, hplain⟩ := getAttrs_packs rfl (Nat.zero_le _) hloop hexec rfl
  rw [hrsp]
  generalize hnames : fitting cls.sizes getRspValuesSize _ _ = names at hmask hoctet hreads hplain
  have hfits : cls.totalSize names ≤ getRspValuesSize := by
    rw [← hnames, ← Nat.zero_add (cls.totalSize _)]
    exact fitting_le _ (Nat.zero_le getRspValuesSize)
  refine ⟨names, ⟨?_, hfits, ?_, ?_, ?_⟩, hreads, hplain⟩
  · rw [← hnames]
    exact fitting_prefix _ _
  · intro longer hlonger hfit
    rw [← hnames]
    exact prefix_fitting hlonger ((Nat.zero_add _).trans_le hfit)
  · intro attr
    rw [OmciMsg.field16_write _ _ (by decide), hmask attr]
    exact or_iff_right (by simp)
  · have hlength := @length_valuesOf_readValue ω cls ref (getInterval msg) names
      (getCounters cls.toMeClass (getInterval msg) env state.store).1
    have hmaskEnd : 1 + (octets16 acc.attrMaskRsp).length ≤ 3 := le_rfl
    have hresultEnd : 0 + [mrCmdSuccess].length ≤ 3 := by decide
    have hblank : ∀ i < 25 - cls.totalSize names,
        ((rspCreate msg).write 1 (octets16 (msg.field16 0))).octet (3 + cls.totalSize names + i) =
          0 := by
      intro i hi
      have hmaskEnd : 1 + (octets16 (msg.field16 0)).length ≤ 3 + cls.totalSize names + i :=
        Nat.le_add_right_of_le (Nat.le_add_right 3 _)
      rw [OmciMsg.octet_write _ _ _ (by omega), patch_of_le hmaskEnd, octet_rspCreate]
    rw [OmciMsg.slice_octet_write _ _ _ (by decide), slice_patch_of_disjoint _ _ (.inr hmaskEnd),
      OmciMsg.withResult, OmciMsg.slice_octet_write _ _ _ (by decide),
      slice_patch_of_disjoint _ _ (.inr hresultEnd)]
    calc
      _ = slice (patch ((rspCreate msg).write 1 (octets16 (msg.field16 0))).octet 3
          (valuesOf cls.toMeClass ref (getInterval msg) (readValue cls.toMeClass ref
            (getInterval msg)) names
            (getCounters cls.toMeClass (getInterval msg) env state.store).1)) 3
          getRspValuesSize := by
        apply slice_eq_iff.mpr
        intro i hi
        rw [getRspValuesSize] at hi
        exact hoctet (3 + i) (by omega)
      _ = _ := by
        rw [slice_patch_append _ _ (hlength.trans_le hfits), hlength]
        exact congrArg _ (slice_eq_replicate hblank)

end Answer

/-- A GET can return the attribute. -/
def TblClass.Gettable (cls : TblClass ω) (attr : Attr) : Prop :=
  cls.isMeAttrExist attr = true ∧ hasProp (cls.attrs attr).prop AttrProp.rd = true ∧
    hasProp (cls.attrs attr).prop AttrProp.table = false ∧
    (cls.attrs attr).size ≤ getRspValuesSize

section Current

variable {cls : TblClass ω}

/-- Values that are read as they are make the answer right. -/
theorem getsCurrent_of_value (hvalue : ∀ ref interval attr store, cls.Gettable attr →
      (meDataRead cls.toMeClass ref interval store).2.1 = .success →
        readValue cls.toMeClass ref interval store attr =
          valueWhenRead cls.toMeClass ref interval store attr) : GetsCurrent cls := by
  intro ref instanceId env state msg hsuccess htable
  obtain ⟨names, hpacking, hreads, hplain⟩ := getActionHandle_packs hsuccess htable
  refine ⟨names, hpacking.isPrefix, hpacking.fits, hpacking.longest, hpacking.mask, ?_⟩
  rw [hpacking.values]
  congr 1
  apply valuesOf_congr _ hreads
  intro attr hattr store hread
  have hmem := hpacking.isPrefix.subset hattr
  rw [requestedReadable, List.mem_filter, Bool.and_eq_true, Bool.and_eq_true] at hmem
  have hsize : (cls.attrs attr).size ≤ cls.totalSize names :=
    List.single_le_sum (fun _ _ => Nat.zero_le _) _ (List.mem_map_of_mem hattr)
  exact hvalue ref (getInterval msg) attr store
    ⟨hmem.2.1.2, hmem.2.2, hplain attr hattr, hsize.trans hpacking.fits⟩ hread

theorem currentValue_plain (hget : ∀ attr, (cls.attrs attr).get = none) (ref : MeRef)
    (store : Store ω) (attr : Attr) :
    currentValue cls.toMeClass ref store attr = cls.attrValue attr (store.me ref).bytes := by
  rw [currentValue, hget attr]

variable {ref : MeRef} {interval : PmInterval} {store : Store ω} {attrMask : AttrMask} {attr : Attr}

/-- A request without tables comes to none. -/
theorem tableAttr_eq_none (hplain : ∀ attr, attrMask.has attr = true →
      hasProp (cls.attrs attr).prop AttrProp.table = false ∧
        (cls.attrs attr).size ≤ getRspValuesSize) (attrSizeSum : Nat) (store : Store ω) :
    tableAttr cls ref attrMask interval attrs attrSizeSum store = none := by
  induction attrs generalizing attrSizeSum store with
  | nil => rfl
  | cons head attrs ih =>
      rw [tableAttr]
      split
      · exact ih _ _
      · rename_i hskip
        simp only [Bool.or_eq_true, not_or, Bool.not_eq_true, Bool.not_eq_false'] at hskip
        obtain ⟨htable, hsize⟩ := hplain head hskip.1.1.1
        rw [if_neg (by simp [htable, Nat.not_lt.mpr hsize])]
        split
        · rfl
        · exact ih _ _

/-- A request for what can be read leaves nothing unread if reading succeeds. -/
theorem unreadAttrs_eq_nil (hplain : ∀ attr, attrMask.has attr = true → cls.Gettable attr)
    (hread : ∀ store, (meDataRead cls.toMeClass ref interval store).2.1 = .success)
    (attrSizeSum : Nat) (store : Store ω) :
    unreadAttrs cls ref attrMask interval attrs attrSizeSum store = [] := by
  induction attrs generalizing attrSizeSum store with
  | nil => rfl
  | cons head attrs ih =>
      rw [unreadAttrs]
      dsimp only
      split
      · exact ih _ _
      · rename_i hskip
        simp only [Bool.or_eq_true, not_or, Bool.not_eq_true, Bool.not_eq_false'] at hskip
        rw [if_neg (by simp [(hplain head hskip.1).2.1])]
        split
        · rfl
        · split
          · rfl
          · rw [if_pos (hread store)]
            exact ih _ _

/-- Such a GET succeeds. -/
theorem getActionHandle_success {instanceId : InstanceId} {env : GetEnv ω}
    {state : GetState ω} {msg : OmciMsg}
    (hplain : ∀ attr, AttrMask.has (msg.field16 0) attr = true → cls.Gettable attr)
    (hcounters : getCounters cls.toMeClass (getInterval msg) env state.store = (store, .success))
    (hread : ∀ store, (meDataRead cls.toMeClass ref (getInterval msg) store).2.1 = .success) :
    (getActionHandle cls ref instanceId env state msg (rspCreate msg)).error = .success := by
  have hends : LoopEnds cls ref instanceId env state.copies _ _ _ _
      (getAttrs cls ref instanceId (msg.field16 0) (getInterval msg) env (List.finRange 16)
        { state with store := store }
        ⟨0, 0, 0, 0, 0, (rspCreate msg).write 1 (octets16 (msg.field16 0))⟩) :=
    getAttrs_ends (List.finRange 16) { state with store := store } _ le_rfl
  rw [tableAttr_eq_none fun attr hattr => (hplain attr hattr).2.2,
    unreadAttrs_eq_nil hplain hread] at hends
  obtain ⟨store', acc, hloop, hopt, hexec⟩ := hends
  have hnone : acc.attrExecMask = 0 := by
    apply AttrMask.ext_has
    intro attr
    rw [Bool.eq_iff_iff, hexec (fun other _ hother => (hplain other hother).1) attr]
    exact or_iff_left List.not_mem_nil
  rw [getActionHandle]
  dsimp only
  rw [hcounters]
  dsimp only
  rw [hloop]
  dsimp only
  rw [getFinish, hnone, hopt]
  rfl

/-- An answer to a request for one attribute that fits names this attribute. -/
theorem GetPacking.names_eq
    {value : Store ω → Attr → List Byte} {rsp : OmciMsg} {names : List Attr}
    (hattr : cls.Gettable attr)
    (h : GetPacking cls.toMeClass ref interval value (omciAttr2mask attr) store rsp names) :
    names = [attr] := by
  have hrequested : requestedReadable cls.toMeClass (omciAttr2mask attr) (List.finRange 16) =
      [attr] := by
    have hsingle : ∀ attr : Attr,
        (List.finRange 16).filter (fun other => decide (attr = other)) = [attr] := by
      decide
    rw [requestedReadable, ← hsingle attr]
    apply List.filter_congr
    intro other _
    rw [AttrMask.has_omciAttr2mask]
    by_cases hsame : attr = other
    · subst hsame
      simp [hattr.1, hattr.2.1]
    · simp [hsame]
  have hfits : cls.totalSize [attr] ≤ getRspValuesSize := by
    simpa [MeClass.totalSize] using hattr.2.2.2
  have hlonger := h.longest [attr] (hrequested ▸ List.prefix_refl _) hfits
  have hfront := h.isPrefix
  rw [hrequested] at hfront
  exact hfront.eq_of_length (Nat.le_antisymm hfront.length_le hlonger.length_le)

/-- Where all answers are right, what a GET can return is intact. -/
theorem intact_of_getsCurrent [Inhabited ω] (haccepted : cls.isAccepted = true)
    (hget : ∀ attr, (cls.attrs attr).get = none) (hkeeps : cls.KeepsData)
    (hcurrent : GetsCurrent cls) {attr : Attr} (hattr : cls.Gettable attr) : cls.Intact attr := by
  let msg := getMsg cls.classId 0 (omciAttr2mask attr)
  let env : GetEnv ω := ⟨fun _ store => (store, .success), false⟩
  have hmask : msg.field16 0 = omciAttr2mask attr := OmciMsg.field16_write _ _ (by decide)
  have hplain : ∀ other, AttrMask.has (msg.field16 0) other = true → cls.Gettable other := by
    intro other hother
    rw [hmask, AttrMask.has_omciAttr2mask, decide_eq_true_eq] at hother
    exact hother ▸ hattr
  apply intact_of_attrValue haccepted hget hkeeps hattr.1 default 0 (getInterval msg)
  intro pos
  let state : GetState ω := ⟨Store.marked default pos, tblCopyInit⟩
  have hcounters : getCounters cls.toMeClass (getInterval msg) env state.store =
      (state.store, .success) := by
    rw [getCounters]
    split <;> rfl
  have hsuccess := @getActionHandle_success ω cls 0 state.store 0 env state msg hplain hcounters
    fun store => meDataRead_success haccepted hget (getInterval msg)
  have htable : getTableAttr cls 0 env state msg = none :=
    tableAttr_eq_none (fun other hother => (hplain other hother).2.2) _ _
  obtain ⟨names, hstored⟩ := hcurrent 0 0 env state msg hsuccess htable
  obtain ⟨names', hreturned, _⟩ := getActionHandle_packs hsuccess htable
  rw [hmask, hcounters] at hstored hreturned
  have hnames := hstored.names_eq hattr
  have hnames' := hreturned.names_eq hattr
  subst hnames hnames'
  have hvalues := List.append_cancel_right (hreturned.values.symm.trans hstored.values)
  rw [valuesOf, valuesOf, valuesOf, valuesOf, List.append_nil, List.append_nil, readValue,
    valueWhenRead, currentValue_plain hget] at hvalues
  exact hvalues

end Current

/-- A GET that succeeds without a table always answers with the longest prefix of what was
requested that fits, with what reading returned and zeros behind. These are the values that
the attributes have, whatever get handlers there are, if the attributes stand in the data in
the order of the table; in a class without get handlers they are if what a GET can return is
intact, and only then as long as no handler delivers the data. -/
theorem getPacking_iff [Inhabited ω] (cls : TblClass ω) (haccepted : cls.isAccepted = true) :
    (∀ ref instanceId env (state : GetState ω) (msg : OmciMsg),
      (getActionHandle cls ref instanceId env state msg (rspCreate msg)).error = .success →
      getTableAttr cls ref env state msg = none →
        ∃ names, GetPacking cls.toMeClass ref (getInterval msg)
          (readValue cls.toMeClass ref (getInterval msg)) (msg.field16 0)
          (getCounters cls.toMeClass (getInterval msg) env state.store).1
          (getActionHandle cls ref instanceId env state msg (rspCreate msg)).rsp names) ∧
      (cls.laidOut = true → GetsCurrent cls) ∧ ((∀ attr, (cls.attrs attr).get = none) →
        ((∀ attr, cls.Gettable attr → cls.Intact attr) → GetsCurrent cls) ∧
        (cls.KeepsData → GetsCurrent cls → ∀ attr, cls.Gettable attr → cls.Intact attr)) := by
  refine ⟨fun ref instanceId env state msg hsuccess htable => ?_, fun hlaid => ?_,
    fun hget => ⟨fun hintact => ?_, fun hkeeps hcurrent attr => ?_⟩⟩
  · obtain ⟨names, hpacking, _⟩ := getActionHandle_packs hsuccess htable
    exact ⟨names, hpacking⟩
  · apply getsCurrent_of_value
    intro ref interval attr store hattr hread
    exact meDataRead_laidOut hlaid ((meDataRead_success_iff hlaid).mp hread) hattr.1
  · apply getsCurrent_of_value
    intro ref interval attr store hattr _
    rw [valueWhenRead, currentValue_plain hget]
    exact attrValue_meDataRead haccepted hget hattr.1 (hintact attr hattr) interval
  · exact intact_of_getsCurrent haccepted hget hkeeps hcurrent

/-- The GAL Ethernet profile stands in order. -/
theorem getPacking_galEthernetProfile : GetsCurrent meGalEthernetProfileClass.withoutTables :=
  (getPacking_iff meGalEthernetProfileClass.withoutTables (by decide)).2.1 (by decide)

/-- A GET of the command format of the ONU remote debug entity returns the byte of the reply
table. -/
theorem getPacking_remoteDebug : (getActionHandle meOnuRemoteDebugClass.withoutTables 0 0 plainEnv
        ⟨remoteDebugStore, tblCopyInit⟩ (getMsg 158 0 0x8000)
        (rspCreate (getMsg 158 0 0x8000))).error = .success ∧
      slice (getActionHandle meOnuRemoteDebugClass.withoutTables 0 0 plainEnv
        ⟨remoteDebugStore, tblCopyInit⟩ (getMsg 158 0 0x8000)
        (rspCreate (getMsg 158 0 0x8000))).rsp.octet 3 1 = [0] ∧
      meOnuRemoteDebugClass.attrValue 0 (remoteDebugStore.me 0).bytes = [1] ∧
      ¬ GetsCurrent meOnuRemoteDebugClass.withoutTables := by
  refine ⟨by decide +kernel, by decide +kernel, by decide, fun hcurrent => ?_⟩
  obtain ⟨names, hpacking⟩ := hcurrent 0 0 plainEnv ⟨remoteDebugStore, tblCopyInit⟩
    (getMsg 158 0 0x8000) (by decide +kernel) (by decide +kernel)
  have hmask : (getMsg 158 0 0x8000).field16 0 = omciAttr2mask 0 := by decide
  rw [hmask] at hpacking
  have hnames := hpacking.names_eq ⟨by decide, by decide, by decide, by decide⟩
  subst hnames
  have hvalues := hpacking.values
  revert hvalues
  decide +kernel

end FalconGpon.Omci
