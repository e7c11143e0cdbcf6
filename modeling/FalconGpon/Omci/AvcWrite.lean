/-
# Attribute value changes

`me_data_write` compares new data with the stored one, has it validated and stored, and sends an
AVC for attributes that were updated. The masks of the class, of the call and of what is suppressed
decide together whether the loop over the attributes is entered; the loop looks at the attributes
that have AVCs and are updated. `me_attr_write` writes one attribute, and passes on a boolean for
the mask of what is suppressed.

`avcs_right_iff` says for which writes one AVC is sent for each attribute of the call that changes
and is not suppressed, and no other, in terms of the masks and of what the handlers of the class
answer.
-/

import FalconGpon.Omci.ReadSource

namespace FalconGpon.Omci

open FalconGpon.Lib

variable {ω : Type}

/-- What a write leaves behind, with the AVCs that were sent. -/
structure WriteResult (ω : Type) where
  store : Store ω
  error : OmciError
  avcs : List (Attr × List Byte)
  /-- The store behind the write, before values for AVCs are read. -/
  written : Store ω

/-- `is_data_updated`, with the mask that it fills in. -/
def updAttrMask (cls : MeClass ω) (me : MeData) (data : Buffer) (attrMask : AttrMask) : AttrMask :=
  if !me.isInitialized then ~~~cls.invAttrMask
  else
    maskOf fun attr => attrMask.has attr &&
      (hasProp (cls.attrs attr).prop AttrProp.table ||
        cls.attrValue attr data != cls.attrValue attr me.bytes)

/-- `sizeof(msg.avc.values)`. -/
def avcValuesSize : Nat := 30

section Write

variable (table : ClassTable ω) (ctx : Context ω) (cls : MeClass ω) (me : MeEntry)
  (omciEnabled : Bool)

/-- `avc_send`: the value in the message, if one is sent. -/
def avcSend (attr : Attr) (store : Store ω) : Store ω × Option (List Byte) :=
  if !cls.isMeAttrExist attr then (store, none)
  else if avcValuesSize < (cls.attrs attr).size then (store, none)
  else
    match meDataRead cls me.ref .curr store with
    | (store, .success, data) =>
        (store, if omciEnabled then some (cls.attrValue attr data) else none)
    | (store, _, _) => (store, none)

/-- The loop of `me_avc_send` over the remaining attributes. -/
def avcLoop (upd : AttrMask) : List Attr → Store ω → Store ω × List (Attr × List Byte)
  | [], store => (store, [])
  | attr :: attrs, store =>
      if cls.avcAttrMask.has attr && upd.has attr then
        let (store, value) := avcSend cls me omciEnabled attr store
        let (store, avcs) := avcLoop upd attrs store
        (store, (value.map (attr, ·)).toList ++ avcs)
      else avcLoop upd attrs store

/-- The condition of `me_avc_send`. -/
def avcGate (attrMask suppressAvc upd : AttrMask) : Bool :=
  cls.avcAttrMask &&& attrMask &&& upd &&& ~~~suppressAvc != 0

/-- `me_avc_send`. -/
def meAvcSend (attrMask suppressAvc upd : AttrMask) (store : Store ω) :
    Store ω × List (Attr × List Byte) :=
  if avcGate cls attrMask suppressAvc upd then
    avcLoop cls me omciEnabled upd (List.finRange 16) store
  else (store, [])

/-- The part of `me_data_write` that validates and stores the data; `none` if an assertion fails.
An error of the validate handler without attributes is not looked at. -/
def meDataStore (data : Buffer) (attrMask upd : AttrMask) (store : Store ω) :
    Option (Store ω × OmciError) :=
  if cls.validate.any fun validate => (validate store data).2 != 0 then some (store, .invalidMeAttr)
  else
    match cls.update with
    | none => none
    | some update =>
        let (store, err, data) := setUpdate update me store data attrMask
        if err != .success then some (store, err)
        else
          (setThresholds table ctx cls me.ref upd (store.copyData cls me.ref data)).map (·, .success)

/-- `me_data_write`; `none` if an assertion fails. -/
def meDataWrite (data : Buffer) (attrMask suppressAvc : AttrMask) (store : Store ω) :
    Option (WriteResult ω) :=
  let upd := updAttrMask cls (store.me me.ref) data attrMask
  if (store.me me.ref).isInitialized && upd == 0 then some ⟨store, .success, [], store⟩
  else
    match meDataStore table ctx cls me data attrMask upd store with
    | none => none
    | some (written, .success) =>
        let (store, avcs) := meAvcSend cls me omciEnabled attrMask suppressAvc upd written
        some ⟨store, .success, avcs, written⟩
    | some (store, err) => some ⟨store, err, [], store⟩

/-- `me_attr_write`; `none` if an assertion fails. The boolean is taken for a mask. -/
def meAttrWrite (attr : Attr) (buff : List Byte) (suppressAvc : Bool) (store : Store ω) :
    Option (WriteResult ω) :=
  if buff.length ≠ (cls.attrs attr).size then none
  else
    match meDataRead cls me.ref .curr store with
    | (store, .success, data) =>
        meDataWrite table ctx cls me omciEnabled (patch data (cls.attrs attr).offset buff)
          (omciAttr2mask attr) (if suppressAvc then 1 else 0) store
    | (store, err, _) => some ⟨store, err, [], store⟩

end Write

/-! ## What is to be sent -/

section Right

variable (cls : MeClass ω) (me : MeEntry)

def Notifies (before written : Store ω) (attrMask suppressed : AttrMask) (attr : Attr) : Prop :=
  cls.avcAttrMask.has attr = true ∧ attrMask.has attr = true ∧ suppressed.has attr = false ∧
    cls.attrValue attr (written.me me.ref).bytes ≠ cls.attrValue attr (before.me me.ref).bytes

instance (before written : Store ω) (attrMask suppressed : AttrMask) (attr : Attr) :
    Decidable (Notifies cls me before written attrMask suppressed attr) :=
  inferInstanceAs (Decidable (_ ∧ _))

/-- A successful write sends an AVC with the new value for each attribute that notifies, in the
order of the attributes, and any other write none. -/
structure AvcRight (before : Store ω) (attrMask suppressed : AttrMask) (result : WriteResult ω) :
    Prop where
  success : result.error = .success → result.avcs =
    (List.finRange 16).filterMap fun attr =>
      if Notifies cls me before result.written attrMask suppressed attr then
        some (attr, cls.attrValue attr (result.written.me me.ref).bytes)
      else none
  failure : result.error ≠ .success → result.avcs = []

variable (omciEnabled : Bool)

/-- A message about an attribute can be sent, and no get handler fails when it is filled in. -/
structure Sendable (store : Store ω) (attr : Attr) : Prop where
  exist : cls.isMeAttrExist attr = true
  room : (cls.attrs attr).size ≤ avcValuesSize
  enabled : omciEnabled = true
  got : ∀ other, ¬ cls.GetFails me.ref store other

/-- What is read for an attribute is what is stored: its get handler says the same, or in a class
without get handlers its bytes are where they are looked for. -/
def ReadsStored (store : Store ω) (attr : Attr) : Prop :=
  if cls.laidOut then
    currentValue cls me.ref store attr = cls.attrValue attr (store.me me.ref).bytes
  else cls.InPlace (store.me me.ref).bytes attr

/-- The masks and the handlers fit: of the attributes that have AVCs those are updated whose stored
values change, and none of them is suppressed as long as another one is not. -/
structure AvcsFit (before written : Store ω) (attrMask suppressAvc suppressed upd : AttrMask) :
    Prop where
  /-- An attribute that changes is updated, a message can be sent about it, and what is read for the
  message is the stored value. -/
  sent : ∀ attr, Notifies cls me before written attrMask suppressed attr →
    upd.has attr = true ∧ Sendable cls me omciEnabled written attr ∧
      ReadsStored cls me written attr
  /-- No message can go along with it about an attribute that is updated, but suppressed, or not
  one of the call, or stored with the value it had. -/
  quiet : avcGate cls attrMask suppressAvc upd = true → ∀ attr, cls.avcAttrMask.has attr = true →
    upd.has attr = true → ¬ Notifies cls me before written attrMask suppressed attr →
      ¬ Sendable cls me omciEnabled written attr

/-- Lists of attributes with values. -/
theorem filterMap_attr_eq_iff {f g : Attr → Option (List Byte)} :
    (List.finRange 16).filterMap (fun attr => (f attr).map (attr, ·)) =
      (List.finRange 16).filterMap (fun attr => (g attr).map (attr, ·)) ↔ ∀ attr, f attr = g attr := by
  constructor
  · intro heq attr
    have hmem : ∀ (h : Attr → Option (List Byte)) (value : List Byte),
        (attr, value) ∈ (List.finRange 16).filterMap (fun attr => (h attr).map (attr, ·)) ↔
          h attr = some value := by
      intro h value
      rw [List.mem_filterMap]
      constructor
      · intro hsome
        have ⟨other, _, hother⟩ := hsome
        have ⟨value', hvalue, hpair⟩ := Option.map_eq_some_iff.mp hother
        cases hpair
        exact hvalue
      · intro hvalue
        exact ⟨attr, List.mem_finRange attr, by rw [hvalue]; rfl⟩
    refine Option.ext fun value => ?_
    rw [← hmem f, heq, hmem g]
  · intro hsame
    rw [funext hsame]

variable {cls me omciEnabled} {before written : Store ω}
  {attrMask suppressAvc suppressed upd : AttrMask}

/-- Without PM counters a message is sent when it can be, with what is read. -/
theorem avcSend_eq_some_iff {store : Store ω} (hplain : cls.ReadPlainly) {attr : Attr}
    {value : List Byte} : (avcSend cls me omciEnabled attr store).2 = some value ↔
      Sendable cls me omciEnabled store attr ∧
        value = cls.attrValue attr (meDataRead cls me.ref .curr store).2.2 := by
  have hgot : (meDataRead cls me.ref .curr store).2.1 = .success ↔
      ∀ other, ¬ cls.GetFails me.ref store other := by
    cases hplain.2 with
    | inl hlaid => rw [meDataRead_success_iff hlaid, meDataRead_store_of_not_pm hplain.1]
    | inr hnone =>
        refine iff_of_true (meDataRead_success hnone.1 hnone.2 .curr) fun other hfails => ?_
        have ⟨_, get, hget, _⟩ := hfails
        rw [hnone.2 other] at hget
        cases hget
  have hsendable : Sendable cls me omciEnabled store attr ↔ cls.isMeAttrExist attr = true ∧
      (cls.attrs attr).size ≤ avcValuesSize ∧ omciEnabled = true ∧
        (meDataRead cls me.ref .curr store).2.1 = .success := by
    rw [hgot]
    exact ⟨fun h => ⟨h.exist, h.room, h.enabled, h.got⟩, fun h => ⟨h.1, h.2.1, h.2.2.1, h.2.2.2⟩⟩
  rw [hsendable, avcSend]
  generalize meDataRead cls me.ref .curr store = result
  have ⟨store', err, data⟩ := result
  by_cases hexist : cls.isMeAttrExist attr = true
  · by_cases hroom : avcValuesSize < (cls.attrs attr).size
    · simp [hexist, hroom, Nat.not_le.mpr hroom]
    · cases err with
      | success => simp [hexist, hroom, Nat.le_of_not_lt hroom, eq_comm]
      | _ => simp [hexist, hroom]
  · simp [hexist]

theorem avcSend_store {store : Store ω} (hplain : cls.ReadPlainly) (attr : Attr) :
    (avcSend cls me omciEnabled attr store).1 = store := by
  have hread := @meDataRead_store_of_not_pm _ cls me.ref store hplain.1 .curr
  rw [avcSend]
  split
  · rfl
  · split
    · rfl
    · split
      · rename_i hresult
        rwa [hresult] at hread
      · rename_i hresult
        rwa [hresult] at hread

/-- The loop sends what there is to say about each attribute. -/
theorem avcLoop_eq {store : Store ω} (hplain : cls.ReadPlainly) (attrs : List Attr) :
    (avcLoop cls me omciEnabled upd attrs store).2 = attrs.filterMap fun attr =>
      (if cls.avcAttrMask.has attr && upd.has attr then
        (avcSend cls me omciEnabled attr store).2
      else none).map (attr, ·) := by
  induction attrs with
  | nil => rfl
  | cons head attrs ih =>
      rw [avcLoop, List.filterMap_cons]
      split
      · dsimp only
        rw [avcSend_store hplain, ih]
        cases (avcSend cls me omciEnabled head store).2 with
        | none => rfl
        | some value => rfl
      · exact ih

/-- In every class there is at most one message about each attribute, and only about those that are
updated. -/
theorem avcLoop_sublist (attrs : List Attr) (store : Store ω) :
    ((avcLoop cls me omciEnabled upd attrs store).2.map Prod.fst).Sublist
      (attrs.filter fun attr => cls.avcAttrMask.has attr && upd.has attr) := by
  induction attrs generalizing store with
  | nil => exact List.Sublist.slnil
  | cons head attrs ih =>
      rw [avcLoop]
      split
      · rename_i hmasks
        dsimp only
        rw [List.filter_cons, if_pos hmasks, List.map_append]
        cases (avcSend cls me omciEnabled head store).2 with
        | none => exact (ih _).cons head
        | some value => exact (ih _).cons_cons head
      · rename_i hmasks
        rw [List.filter_cons, if_neg hmasks]
        exact ih store

theorem avcGate_of_has {attr : Attr} (havc : cls.avcAttrMask.has attr = true)
    (hmask : attrMask.has attr = true) (hupd : upd.has attr = true)
    (hsuppress : suppressAvc.has attr = false) : avcGate cls attrMask suppressAvc upd = true := by
  rw [avcGate, bne_iff_ne]
  intro hzero
  have hhas := congrArg (fun mask => AttrMask.has mask attr) hzero
  simp [havc, hmask, hupd, hsuppress] at hhas

/-- When the value that is read is the stored one. -/
theorem readsStored_iff {store : Store ω} (hplain : cls.ReadPlainly) {attr : Attr}
    (hsendable : Sendable cls me omciEnabled store attr) :
    cls.attrValue attr (store.me me.ref).bytes =
        cls.attrValue attr (meDataRead cls me.ref .curr store).2.2 ↔
      ReadsStored cls me store attr := by
  rw [ReadsStored, eq_comm]
  split
  · rename_i hlaid
    have hread := @meDataRead_laidOut _ cls me.ref store hlaid .curr
    rw [meDataRead_store_of_not_pm hplain.1] at hread
    rw [hread hsendable.got hsendable.exist]
  · rename_i hlaid
    have ⟨haccepted, hget⟩ := hplain.2.resolve_left hlaid
    exact attrValue_meDataRead_iff haccepted hget hplain.1 hsendable.exist

/-- The AVCs of a write that is stored. -/
theorem meAvcSend_right_iff (hplain : cls.ReadPlainly)
    (hmasks : ∀ attr, attrMask.has attr = true → suppressed.has attr = false →
      suppressAvc.has attr = false) :
    (meAvcSend cls me omciEnabled attrMask suppressAvc upd written).2 =
        (List.finRange 16).filterMap (fun attr =>
          if Notifies cls me before written attrMask suppressed attr then
            some (attr, cls.attrValue attr (written.me me.ref).bytes)
          else none) ↔
      AvcsFit cls me omciEnabled before written attrMask suppressAvc suppressed upd := by
  let said : Attr → Option (List Byte) := fun attr =>
    if avcGate cls attrMask suppressAvc upd = true ∧
        (cls.avcAttrMask.has attr && upd.has attr) = true then
      (avcSend cls me omciEnabled attr written).2
    else none
  let due : Attr → Option (List Byte) := fun attr =>
    if Notifies cls me before written attrMask suppressed attr then
      some (cls.attrValue attr (written.me me.ref).bytes)
    else none
  have hsaid : (meAvcSend cls me omciEnabled attrMask suppressAvc upd written).2 =
      (List.finRange 16).filterMap fun attr => (said attr).map (attr, ·) := by
    rw [meAvcSend]
    by_cases hgate : avcGate cls attrMask suppressAvc upd = true
    · simp only [said, hgate, if_true, true_and]
      exact avcLoop_eq hplain (List.finRange 16)
    · simp only [said, hgate, Bool.false_eq_true, if_false, false_and, Option.map_none,
        List.filterMap_none]
  have hdue : (List.finRange 16).filterMap (fun attr =>
      if Notifies cls me before written attrMask suppressed attr then
        some (attr, cls.attrValue attr (written.me me.ref).bytes)
      else none) = (List.finRange 16).filterMap fun attr => (due attr).map (attr, ·) := by
    refine List.filterMap_congr fun attr _ => ?_
    simp only [due]
    split
    · rfl
    · rfl
  have hopen : ∀ attr, avcGate cls attrMask suppressAvc upd = true →
      cls.avcAttrMask.has attr = true → upd.has attr = true →
        said attr = (avcSend cls me omciEnabled attr written).2 := by
    intro attr hgate havc hupd
    exact if_pos ⟨hgate, Bool.and_eq_true_iff.mpr ⟨havc, hupd⟩⟩
  have hsilent : ∀ attr, (avcSend cls me omciEnabled attr written).2 = none ↔
      ¬ Sendable cls me omciEnabled written attr := by
    intro attr
    rw [Option.eq_none_iff_forall_ne_some]
    constructor
    · intro hnone hsendable
      exact hnone _ ((avcSend_eq_some_iff hplain).mpr ⟨hsendable, rfl⟩)
    · intro hnot value hvalue
      exact hnot ((avcSend_eq_some_iff hplain).mp hvalue).1
  rw [hsaid, hdue, filterMap_attr_eq_iff]
  constructor
  · intro hsame
    constructor
    · intro attr hnotifies
      have hvalue : said attr = some (cls.attrValue attr (written.me me.ref).bytes) :=
        (hsame attr).trans (if_pos hnotifies)
      simp only [said] at hvalue
      split at hvalue
      · rename_i hsent
        have ⟨hsendable, hread⟩ := (avcSend_eq_some_iff hplain).mp hvalue
        exact ⟨(Bool.and_eq_true_iff.mp hsent.2).2, hsendable,
          (readsStored_iff hplain hsendable).mp hread⟩
      · cases hvalue
    · intro hgate attr havc hupd hnot
      apply (hsilent attr).mp
      exact (hopen attr hgate havc hupd).symm.trans ((hsame attr).trans (if_neg hnot))
  · intro hfit attr
    by_cases hnotifies : Notifies cls me before written attrMask suppressed attr
    · have hdueAttr : due attr = some (cls.attrValue attr (written.me me.ref).bytes) :=
        if_pos hnotifies
      have ⟨havc, hmask, hsuppressed, _⟩ := hnotifies
      have ⟨hupd, hsendable, hstored⟩ := hfit.sent attr hnotifies
      have hgate : avcGate cls attrMask suppressAvc upd = true :=
        avcGate_of_has havc hmask hupd (hmasks attr hmask hsuppressed)
      have hread := (readsStored_iff hplain hsendable).mpr hstored
      rw [hopen attr hgate havc hupd, hdueAttr]
      exact (avcSend_eq_some_iff hplain).mpr ⟨hsendable, hread⟩
    · have hdueAttr : due attr = none := if_neg hnotifies
      rw [hdueAttr]
      simp only [said]
      split
      · rename_i hsent
        have ⟨havc, hupd⟩ := Bool.and_eq_true_iff.mp hsent.2
        exact (hsilent attr).mpr (hfit.quiet hsent.1 attr havc hupd hnotifies)
      · rfl

/-! ## Writes -/

variable {table : ClassTable ω} {ctx : Context ω} {data : Buffer} {store : Store ω}

/-- The validate handler lets the data pass, and the update handler leaves them to be stored. -/
def DataStored (cls : MeClass ω) (me : MeEntry) (data : Buffer) (attrMask : AttrMask)
    (store written : Store ω) : Prop :=
  (∀ validate, cls.validate = some validate → (validate store data).2 = 0) ∧
    ∃ update store' data', cls.update = some update ∧
      setUpdate update me store data attrMask = (store', .success, data') ∧
      written = store'.copyData cls me.ref data'

/-- A write that gets to be stored fits. -/
def WriteFits (cls : MeClass ω) (me : MeEntry) (omciEnabled : Bool) (data : Buffer)
    (attrMask suppressAvc suppressed : AttrMask) (store : Store ω) : Prop :=
  let upd := updAttrMask cls (store.me me.ref) data attrMask
  ∀ written, ((store.me me.ref).isInitialized = true → upd ≠ 0) →
    DataStored cls me data attrMask store written →
      AvcsFit cls me omciEnabled store written attrMask suppressAvc suppressed upd

theorem meDataStore_eq_success_iff
    (hpm : hasProp cls.prop (MeProp.pm ||| MeProp.pmInternal) = false) :
    meDataStore table ctx cls me data attrMask upd store = some (written, .success) ↔
      DataStored cls me data attrMask store written := by
  have hthr : ∀ store', setThresholds table ctx cls me.ref upd store' = some store' := by
    intro store'
    rw [hasProp_or, Bool.or_eq_false_iff] at hpm
    rw [setThresholds, hpm.1]
    rfl
  have hvalid : (cls.validate.any fun validate => (validate store data).2 != 0) = false ↔
      ∀ validate, cls.validate = some validate → (validate store data).2 = 0 := by
    cases cls.validate with
    | none => simp
    | some validate => simp
  rw [DataStored, ← hvalid, meDataStore]
  cases (cls.validate.any fun validate => (validate store data).2 != 0) with
  | true => simp
  | false =>
      cases cls.update with
      | none => simp
      | some update =>
          generalize hupdate : setUpdate update me store data attrMask = result
          obtain ⟨store', err, data'⟩ := result
          simp only [Option.some.injEq, true_and, Bool.false_eq_true, if_false]
          cases err with
          | success => simp [hthr, hupdate, eq_comm]
          | _ => simp [hupdate]

/-- The AVCs of `me_data_write`. -/
theorem meDataWrite_right_iff (hplain : cls.ReadPlainly)
    (hmasks : ∀ attr, attrMask.has attr = true → suppressed.has attr = false →
      suppressAvc.has attr = false) :
    (∀ result, meDataWrite table ctx cls me omciEnabled data attrMask suppressAvc store =
        some result → AvcRight cls me store attrMask suppressed result) ↔
      WriteFits cls me omciEnabled data attrMask suppressAvc suppressed store := by
  rw [meDataWrite, WriteFits]
  dsimp only
  generalize hupd : updAttrMask cls (store.me me.ref) data attrMask = upd
  by_cases hsame : ((store.me me.ref).isInitialized && upd == 0) = true
  · rw [if_pos hsame]
    have ⟨hinit, hzero⟩ := Bool.and_eq_true_iff.mp hsame
    refine iff_of_true ?_ fun written hnonzero => absurd (beq_iff_eq.mp hzero) (hnonzero hinit)
    intro result hresult
    cases hresult
    refine ⟨fun _ => ?_, fun _ => rfl⟩
    rw [eq_comm, List.filterMap_eq_nil_iff]
    exact fun attr _ => if_neg fun hnotifies => hnotifies.2.2.2 rfl
  · rw [if_neg hsame]
    have hnonzero : (store.me me.ref).isInitialized = true → upd ≠ 0 := by
      intro hinit hzero
      exact hsame (Bool.and_eq_true_iff.mpr ⟨hinit, beq_iff_eq.mpr hzero⟩)
    have hwritten := fun written => @meDataStore_eq_success_iff _ cls me written attrMask upd
      table ctx data store hplain.1
    simp only [← hwritten]
    cases hstore : meDataStore table ctx cls me data attrMask upd store with
    | none => exact iff_of_true nofun nofun
    | some stored =>
        have ⟨written, err⟩ := stored
        by_cases herr : err = .success
        · subst herr
          dsimp only
          constructor
          · intro hright written' _ hwritten'
            cases hwritten'
            exact (meAvcSend_right_iff hplain hmasks).mp ((hright _ rfl).success rfl)
          · intro hfit result hresult
            cases hresult
            refine ⟨fun _ => ?_, fun hfailed => absurd rfl hfailed⟩
            exact (meAvcSend_right_iff hplain hmasks).mpr (hfit written hnonzero rfl)
        · refine iff_of_true ?_ ?_
          · intro result hresult
            cases err with
            | success => exact absurd rfl herr
            | _ =>
                cases hresult
                exact ⟨nofun, fun _ => rfl⟩
          · intro written' _ hwritten'
            cases hwritten'
            exact absurd rfl herr

/-- What a write may send in any class. -/
theorem meDataWrite_sublist {suppressAvc : AttrMask} {result : WriteResult ω}
    (hresult : meDataWrite table ctx cls me omciEnabled data attrMask suppressAvc store =
      some result) :
    (result.avcs.map Prod.fst).Sublist ((List.finRange 16).filter fun attr =>
        cls.avcAttrMask.has attr &&
          (updAttrMask cls (store.me me.ref) data attrMask).has attr) ∧
      (result.error ≠ .success → result.avcs = []) := by
  rw [meDataWrite] at hresult
  dsimp only at hresult
  split at hresult
  · cases hresult
    exact ⟨List.nil_sublist _, fun _ => rfl⟩
  · split at hresult
    · cases hresult
    · rw [meAvcSend] at hresult
      split at hresult
      · cases hresult
        exact ⟨avcLoop_sublist _ _, fun hfailed => absurd rfl hfailed⟩
      · cases hresult
        exact ⟨List.nil_sublist _, fun _ => rfl⟩
    · cases hresult
      exact ⟨List.nil_sublist _, fun _ => rfl⟩

/-- The attribute of `me_attr_write`, if it is suppressed. -/
def attrSuppressed (attr : Attr) (suppressAvc : Bool) : AttrMask :=
  if suppressAvc then omciAttr2mask attr else 0

/-- In every class a write sends at most one AVC for each attribute, only for those that have AVCs
and are updated, and none if it fails. Where the class is read plainly, a write of data or of one
attribute sends the AVCs that are due exactly if the masks and the handlers fit. -/
theorem avcs_right_iff (table : ClassTable ω) (ctx : Context ω) (cls : MeClass ω) (me : MeEntry)
    (omciEnabled : Bool) (store : Store ω) :
    (∀ data attrMask suppressAvc result,
      meDataWrite table ctx cls me omciEnabled data attrMask suppressAvc store = some result →
        (result.avcs.map Prod.fst).Sublist ((List.finRange 16).filter fun attr =>
          cls.avcAttrMask.has attr &&
            (updAttrMask cls (store.me me.ref) data attrMask).has attr) ∧
        (result.error ≠ .success → result.avcs = [])) ∧
    (cls.ReadPlainly →
      (∀ data attrMask suppressAvc,
        (∀ result, meDataWrite table ctx cls me omciEnabled data attrMask suppressAvc store =
          some result → AvcRight cls me store attrMask suppressAvc result) ↔
        WriteFits cls me omciEnabled data attrMask suppressAvc suppressAvc store) ∧
      ∀ attr buff suppressAvc,
        (∀ result, meAttrWrite table ctx cls me omciEnabled attr buff suppressAvc store =
          some result → AvcRight cls me (meDataRead cls me.ref .curr store).1 (omciAttr2mask attr)
            (attrSuppressed attr suppressAvc) result) ↔
        (buff.length = (cls.attrs attr).size → ∀ store' data,
          meDataRead cls me.ref .curr store = (store', .success, data) →
            WriteFits cls me omciEnabled (patch data (cls.attrs attr).offset buff)
              (omciAttr2mask attr) (if suppressAvc then 1 else 0) (attrSuppressed attr suppressAvc)
              store')) := by
  refine ⟨fun _ _ _ _ => meDataWrite_sublist, fun hplain =>
    ⟨fun _ _ _ => meDataWrite_right_iff hplain fun _ _ hsame => hsame,
      fun attr buff suppressAvc => ?_⟩⟩
  -- an attribute that is not suppressed is written with an empty mask
  have hmasks : ∀ other, (omciAttr2mask attr).has other = true →
      (attrSuppressed attr suppressAvc).has other = false →
        AttrMask.has (if suppressAvc then 1 else 0) other = false := by
    intro other hmask hsuppressed
    cases suppressAvc with
    | false => exact AttrMask.has_zero other
    | true => exact absurd (hmask.symm.trans hsuppressed) Bool.true_eq_false.mp
  rw [meAttrWrite]
  by_cases hlength : buff.length = (cls.attrs attr).size
  · rw [if_neg (not_not.mpr hlength)]
    generalize hread : meDataRead cls me.ref .curr store = read
    have ⟨store', err, data⟩ := read
    by_cases herr : err = .success
    · subst herr
      refine (meDataWrite_right_iff hplain hmasks).trans ?_
      constructor
      · intro hfits _ store'' data' heq
        cases heq
        exact hfits
      · intro hfits
        exact hfits hlength _ _ rfl
    · refine iff_of_true ?_ ?_
      · intro result hresult
        cases err with
        | success => exact absurd rfl herr
        | _ =>
            cases hresult
            exact ⟨nofun, fun _ => rfl⟩
      · intro _ store'' data' heq
        cases heq
        exact absurd rfl herr
  · rw [if_pos hlength]
    exact iff_of_true nofun fun h => absurd h hlength

def ethernetUni : Context Unit :=
  singleMe true 11 0x0101

theorem ethernetUni_not_getFails (ref : MeRef) (store : Store Unit) (attr : Attr) :
    ¬ mePptpEthernetUniClass.GetFails ref store attr := by
  refine not_getFails (fun attr get hget => ?_) attr
  obtain rfl := @packedAttrs_get _ _ .upToDate (by simp) _ _ hget
  rfl

/-- The alarm reporting control is set with a notification. -/
theorem avcRight_ethernetUni : ∃ result, meAttrWrite sampleTable ethernetUni
    mePptpEthernetUniClass ⟨0, 0x0101, true, true⟩ true 11 [1] false ethernetUni.handlerStore =
      some result ∧ result.avcs = [(11, [1])] ∧
        AvcRight mePptpEthernetUniClass ⟨0, 0x0101, true, true⟩
          (meDataRead mePptpEthernetUniClass 0 .curr ethernetUni.handlerStore).1
          (omciAttr2mask 11) (attrSuppressed 11 false) result := by
  have hdone : (meAttrWrite sampleTable ethernetUni mePptpEthernetUniClass ⟨0, 0x0101, true, true⟩
      true 11 [1] false ethernetUni.handlerStore).map (fun result => result.avcs) =
        some [(11, [1])] := by
    decide
  have ⟨result, hresult, havcs⟩ := Option.map_eq_some_iff.mp hdone
  refine ⟨result, hresult, havcs, ?_⟩
  have hplain : mePptpEthernetUniClass.ReadPlainly := ⟨by decide, .inl (by decide)⟩
  have hright := ((avcs_right_iff sampleTable ethernetUni mePptpEthernetUniClass
    ⟨0, 0x0101, true, true⟩ true ethernetUni.handlerStore).2 hplain).2 11 [1] false
  refine hright.mpr (fun _ store' data hread => ?_) result hresult
  obtain rfl : ethernetUni.handlerStore = store' := congrArg Prod.fst hread
  obtain rfl : (meDataRead mePptpEthernetUniClass 0 .curr ethernetUni.handlerStore).2.2 = data :=
    congrArg (fun read => read.2.2) hread
  intro written _ ⟨_, update, store', data', hupdate, hset, hwritten⟩
  cases hupdate
  cases hset
  subst hwritten
  have honly : ∀ attr, AttrMask.has (updAttrMask mePptpEthernetUniClass (ethernetUni.store.me 0)
      (patch (meDataRead mePptpEthernetUniClass 0 .curr ethernetUni.handlerStore).2.2
        (mePptpEthernetUniClass.attrs 11).offset [1]) (omciAttr2mask 11)) attr = true → attr = 11 := by
    decide
  have hmasked : ∀ attr, (omciAttr2mask 11).has attr = true → attr = 11 := by decide
  constructor
  · intro attr hnotifies
    obtain rfl := hmasked attr hnotifies.2.1
    refine ⟨by decide, ⟨by decide, by decide, rfl, ethernetUni_not_getFails _ _⟩, ?_⟩
    rw [ReadsStored, if_pos (by decide)]
    decide
  · intro _ attr _ hupd hquiet
    obtain rfl := honly attr hupd
    exact absurd hquiet (by decide)

/-- The operator sets the alarm reporting control, without a notification: one is sent. -/
theorem not_avcRight_suppressed : ((ethernetUni.store.me 0).isInitialized = true) ∧
    ¬ ∀ result, meAttrWrite sampleTable ethernetUni mePptpEthernetUniClass ⟨0, 0x0101, true, true⟩
      true 11 [1] true ethernetUni.handlerStore = some result →
        AvcRight mePptpEthernetUniClass ⟨0, 0x0101, true, true⟩
          (meDataRead mePptpEthernetUniClass 0 .curr ethernetUni.handlerStore).1
          (omciAttr2mask 11) (attrSuppressed 11 true) result := by
  refine ⟨by decide, fun hright => ?_⟩
  have hdone : (meAttrWrite sampleTable ethernetUni mePptpEthernetUniClass ⟨0, 0x0101, true, true⟩
      true 11 [1] true ethernetUni.handlerStore).map (fun result => (result.error, result.avcs)) =
        some (.success, [(11, [1])]) := by
    decide
  have ⟨result, hresult, hpair⟩ := Option.map_eq_some_iff.mp hdone
  have havcs := (hright result hresult).success (congrArg Prod.fst hpair)
  have hmem : ((11 : Attr), [(1 : Byte)]) ∈ result.avcs := by
    rw [show result.avcs = [(11, [1])] from congrArg Prod.snd hpair]
    exact List.mem_singleton_self _
  rw [havcs, List.mem_filterMap] at hmem
  have ⟨attr, _, hsent⟩ := hmem
  split at hsent
  · rename_i hnotifies
    have hattr : attr = 11 := congrArg Prod.fst (Option.some.inj hsent)
    subst hattr
    exact absurd hnotifies.2.2.1 (by decide)
  · cases hsent

end Right

end FalconGpon.Omci
