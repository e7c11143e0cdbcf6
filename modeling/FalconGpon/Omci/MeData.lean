/-
# Reading and fetching attribute data

`me_data_fetch` builds a copy of an entity's data in which the attributes of a mask are
fresh: from the attribute's get handler if it has one, else from the next bytes of a
source. `me_data_read` fetches from the entity's own data, and so expects the attributes
to lie there in the order of the table.
-/

import FalconGpon.Omci.Me

namespace FalconGpon.Omci

open FalconGpon.Lib

variable {ω : Type}

namespace MeClass

variable (cls : MeClass ω)

def attrValue (attr : Attr) (data : Buffer) : List Byte :=
  slice data (cls.attrs attr).offset (cls.attrs attr).size

/-- Where an attribute begins among the attributes of a mask that stand one after the
other. -/
def offsetIn (mask : AttrMask) (attr : Attr) : Nat :=
  (((List.finRange 16).filter fun other => mask.has other && decide (other < attr)).map
    fun other => (cls.attrs other).size).sum

end MeClass

/-- The loop of `me_data_fetch` over the remaining attributes. -/
def fetchAttrs (cls : MeClass ω) (ref : MeRef) (store : Store ω) (attrMask : AttrMask)
    (data : Buffer) (dataSize : Nat) (dataAttrMask : AttrMask) :
    List Attr → Nat → Buffer → OmciError × Buffer
  | [], _, fetched => (.success, fetched)
  | attr :: attrs, offset, fetched =>
      let size := (cls.attrs attr).size
      let attrOffset := (cls.attrs attr).offset
      let next := if dataAttrMask.has attr then offset + size else offset
      let rest := fetchAttrs cls ref store attrMask data dataSize dataAttrMask attrs next
      if !attrMask.has attr then rest fetched
      else if dataSize < offset + size then (.bounds, fetched)
      else
        match (cls.attrs attr).get with
        | some get =>
            match get.run ref store (slice fetched attrOffset size) with
            | (.success, bytes) => rest (patch fetched attrOffset bytes)
            | (err, bytes) => (err, patch fetched attrOffset bytes)
        | none => rest (patch fetched attrOffset (slice data offset size))

/-- `me_data_fetch`, with data to fetch from. -/
def meDataFetch (cls : MeClass ω) (ref : MeRef) (store : Store ω) (attrMask : AttrMask)
    (data : Buffer) (dataSize : Nat) (dataAttrMask : AttrMask) : OmciError × Buffer :=
  fetchAttrs cls ref store attrMask data dataSize dataAttrMask (List.finRange 16) 0
    (store.me ref).bytes

/-- `pm_me_interval_set`. -/
def pmMeIntervalSet (cls : MeClass ω) (ref : MeRef) (interval : PmInterval)
    (store : Store ω) : Store ω :=
  if hasProp cls.prop MeProp.pmInternal then
    let me := store.me ref
    store.setMe ref { me with data := me.interval interval }
  else if hasProp cls.prop MeProp.pm then
    match cls.countersGet with
    | some countersGet => countersGet ref interval store
    | none => store
  else store

/-- `me_data_read`. -/
def meDataRead (cls : MeClass ω) (ref : MeRef) (interval : PmInterval) (store : Store ω) :
    Store ω × OmciError × Buffer :=
  if cls.invAttrMask ||| cls.optAttrMask = 0xffff#16 then (store, .success, fun _ => 0)
  else
    let store := pmMeIntervalSet cls ref interval store
    (store, meDataFetch cls ref store (~~~(cls.invAttrMask ||| cls.optAttrMask))
      (store.me ref).bytes cls.dataSize (~~~cls.invAttrMask))

/-- `is_data_updated`, without a mask to fill in. -/
def isDataUpdated (cls : MeClass ω) (me : MeData) (updData : Buffer) (attrMask : AttrMask) : Bool :=
  !me.isInitialized || (List.finRange 16).any fun attr =>
    attrMask.has attr &&
      (hasProp (cls.attrs attr).prop AttrProp.table ||
        cls.attrValue attr updData != cls.attrValue attr me.bytes)

/-! ## Reading what is there -/

/-- The value of an attribute: what its get handler delivers, else what is stored. -/
def currentValue (cls : MeClass ω) (ref : MeRef) (store : Store ω) (attr : Attr) : List Byte :=
  let stored := cls.attrValue attr (store.me ref).bytes
  match (cls.attrs attr).get with
  | some get => (get.run ref store stored).2
  | none => stored

/-- The readable attributes among these lie one after the other from an offset on, and
within the data. -/
def MeClass.laidOutFrom (cls : MeClass ω) : List Attr → Nat → Bool
  | [], _ => true
  | attr :: attrs, offset =>
      (!(~~~(cls.invAttrMask ||| cls.optAttrMask)).has attr ||
        ((cls.attrs attr).offset == offset &&
          decide (offset + (cls.attrs attr).size ≤ cls.dataSize))) &&
        cls.laidOutFrom attrs
          (if (~~~cls.invAttrMask).has attr then offset + (cls.attrs attr).size else offset)

def MeClass.laidOut (cls : MeClass ω) : Bool := cls.laidOutFrom (List.finRange 16) 0

section LaidOut

variable {cls : MeClass ω} {ref : MeRef} {store : Store ω}

theorem length_currentValue (cls : MeClass ω) (ref : MeRef) (store : Store ω) (attr : Attr) :
    (currentValue cls ref store attr).length = (cls.attrs attr).size := by
  rw [currentValue]
  split
  · rename_i get _
    rw [get.length, MeClass.attrValue, length_slice]
  · rw [MeClass.attrValue, length_slice]

theorem has_readMask (cls : MeClass ω) (attr : Attr) :
    (~~~(cls.invAttrMask ||| cls.optAttrMask)).has attr = cls.isMeAttrExist attr := by
  simp [MeClass.invAttrMask, MeClass.optAttrMask, MeClass.isMeAttrExist, Bool.or_comm]

theorem has_validMask_of_exist {attr : Attr} (hexist : cls.isMeAttrExist attr = true) :
    (~~~cls.invAttrMask).has attr = true := by
  rw [← has_readMask, AttrMask.has_not, AttrMask.has_or, Bool.not_eq_true',
    Bool.or_eq_false_iff] at hexist
  rw [AttrMask.has_not, hexist.1]
  rfl

/-- The get handler of a supported attribute fails. -/
def MeClass.GetFails (cls : MeClass ω) (ref : MeRef) (store : Store ω) (attr : Attr) : Prop :=
  cls.isMeAttrExist attr = true ∧ ∃ get, (cls.attrs attr).get = some get ∧
    (get.run ref store (cls.attrValue attr (store.me ref).bytes)).1 ≠ .success

/-- The loop refreshes one attribute in place, and goes on unless its get handler fails. -/
theorem fetchAttrs_cons {attr : Attr} {attrs : List Attr} {offset : Nat} {fetched : Buffer}
    (hexist : cls.isMeAttrExist attr = true) (hoffset : (cls.attrs attr).offset = offset)
    (hbound : offset + (cls.attrs attr).size ≤ cls.dataSize)
    (hsame : ∀ i, offset ≤ i → fetched i = (store.me ref).bytes i) :
    ∃ err, (err = .success ↔ ¬ cls.GetFails ref store attr) ∧
      fetchAttrs cls ref store (~~~(cls.invAttrMask ||| cls.optAttrMask))
          (store.me ref).bytes cls.dataSize (~~~cls.invAttrMask) (attr :: attrs) offset fetched =
        if err = .success then
          fetchAttrs cls ref store (~~~(cls.invAttrMask ||| cls.optAttrMask))
            (store.me ref).bytes cls.dataSize (~~~cls.invAttrMask) attrs
            (offset + (cls.attrs attr).size)
            (patch fetched offset (currentValue cls ref store attr))
        else (err, patch fetched offset (currentValue cls ref store attr)) := by
  have hread := (has_readMask cls attr).trans hexist
  have hvalid := has_validMask_of_exist hexist
  have hslice : slice fetched offset (cls.attrs attr).size =
      cls.attrValue attr (store.me ref).bytes := by
    rw [MeClass.attrValue, hoffset]
    exact slice_eq_iff.mpr fun i _ => hsame _ (Nat.le_add_right _ _)
  rw [fetchAttrs, currentValue]
  simp only [hread, hvalid, Bool.not_true, Bool.false_eq_true, if_false, if_true,
    if_neg (Nat.not_lt.mpr hbound), hoffset, hslice]
  cases hget : (cls.attrs attr).get with
  | none =>
      refine ⟨.success, iff_of_true rfl ?_, ?_⟩
      · rintro ⟨_, get, hsome, _⟩
        rw [hget] at hsome
        cases hsome
      · rw [if_pos rfl, MeClass.attrValue, hoffset]
  | some get =>
      have hfails : cls.GetFails ref store attr ↔
          (get.run ref store (cls.attrValue attr (store.me ref).bytes)).1 ≠ .success := by
        simp [MeClass.GetFails, hexist, hget]
      refine ⟨_, (hfails.not.trans not_not).symm, ?_⟩
      dsimp only
      generalize get.run ref store (cls.attrValue attr (store.me ref).bytes) = result
      obtain ⟨err, bytes⟩ := result
      cases err <;> rfl

theorem le_offset_of_laidOutFrom {attrs : List Attr} {offset : Nat}
    (hlaid : cls.laidOutFrom attrs offset = true) {attr : Attr} (hattr : attr ∈ attrs)
    (hexist : cls.isMeAttrExist attr = true) : offset ≤ (cls.attrs attr).offset := by
  induction attrs generalizing offset with
  | nil => cases hattr
  | cons head attrs ih =>
      rw [MeClass.laidOutFrom, Bool.and_eq_true] at hlaid
      rcases List.mem_cons.mp hattr with rfl | hmem
      · have hhead := hlaid.1
        simp only [has_readMask, hexist, Bool.not_true, Bool.false_or, Bool.and_eq_true,
          beq_iff_eq] at hhead
        exact hhead.1.ge
      · have hle := ih hlaid.2 hmem
        split at hle <;> omega

/-- What fetching these attributes from the data itself leaves: current values up to the first
get handler that fails, and what is stored behind it. -/
structure Refreshed (cls : MeClass ω) (ref : MeRef) (store : Store ω) (attrs : List Attr)
    (result : OmciError × Buffer) : Prop where
  success : result.1 = .success ↔ ∀ attr ∈ attrs, ¬ cls.GetFails ref store attr
  current : ∀ attr ∈ attrs, cls.isMeAttrExist attr = true →
    (∀ other ∈ attrs, other < attr → ¬ cls.GetFails ref store other) →
      cls.attrValue attr result.2 = currentValue cls ref store attr
  stale : ∀ attr ∈ attrs, cls.isMeAttrExist attr = true →
    (∃ other ∈ attrs, other < attr ∧ cls.GetFails ref store other) →
      cls.attrValue attr result.2 = cls.attrValue attr (store.me ref).bytes

/-- Fetching from the data itself refreshes the attributes in place. -/
theorem fetchAttrs_refreshed {attrs : List Attr} {offset : Nat} {fetched : Buffer}
    (hlaid : cls.laidOutFrom attrs offset = true) (hsorted : attrs.Pairwise (· < ·))
    (hsame : ∀ i, offset ≤ i → fetched i = (store.me ref).bytes i) :
    let result := fetchAttrs cls ref store (~~~(cls.invAttrMask ||| cls.optAttrMask))
      (store.me ref).bytes cls.dataSize (~~~cls.invAttrMask) attrs offset fetched
    Refreshed cls ref store attrs result ∧ ∀ i < offset, result.2 i = fetched i := by
  induction attrs generalizing offset fetched with
  | nil => exact ⟨⟨iff_of_true rfl nofun, nofun, nofun⟩, fun _ _ => rfl⟩
  | cons head attrs ih =>
      have ⟨hbehind, hsorted'⟩ := List.pairwise_cons.mp hsorted
      have hfirst : ∀ other ∈ head :: attrs, ¬ other < head := by
        intro other hother
        rcases List.mem_cons.mp hother with rfl | hmem
        · exact lt_irrefl _
        · exact (hbehind other hmem).not_gt
      rw [MeClass.laidOutFrom, Bool.and_eq_true] at hlaid
      obtain ⟨hhead, hrest⟩ := hlaid
      by_cases hread : cls.isMeAttrExist head = true
      · simp only [has_readMask, hread, Bool.not_true, Bool.false_or, Bool.and_eq_true, beq_iff_eq,
          decide_eq_true_eq] at hhead
        obtain ⟨hoffset, hbound⟩ := hhead
        rw [if_pos (has_validMask_of_exist hread)] at hrest
        have hlength := length_currentValue cls ref store head
        have hpatched : ∀ i, offset + (cls.attrs head).size ≤ i →
            patch fetched offset (currentValue cls ref store head) i = (store.me ref).bytes i := by
          intro i hi
          rw [patch_of_le (by omega)]
          exact hsame i (by omega)
        have hown : cls.attrValue head (patch fetched offset (currentValue cls ref store head)) =
            currentValue cls ref store head := by
          rw [MeClass.attrValue, hoffset]
          exact slice_patch_self _ _ _ hlength
        obtain ⟨err, herr, hfetch⟩ :=
          @fetchAttrs_cons _ cls ref store head attrs offset fetched hread hoffset hbound hsame
        dsimp only
        rw [hfetch]
        by_cases hfails : cls.GetFails ref store head
        · -- the handler's bytes are put in place, and the rest stays as it is
          have hfailed : err ≠ .success := fun hsuccess => herr.mp hsuccess hfails
          rw [if_neg hfailed]
          refine ⟨⟨iff_of_false hfailed fun hnone => hnone head List.mem_cons_self hfails,
            fun attr hattr _ hnone => ?_, fun attr hattr hexist hfailed => ?_⟩,
            fun i hi => patch_of_lt hi⟩
          · rcases List.mem_cons.mp hattr with rfl | hmem
            · exact hown
            · exact absurd hfails (hnone head List.mem_cons_self (hbehind attr hmem))
          · rcases List.mem_cons.mp hattr with rfl | hmem
            · obtain ⟨other, hother, hlt, _⟩ := hfailed
              exact absurd hlt (hfirst other hother)
            · have hle := le_offset_of_laidOutFrom hrest hmem hexist
              exact slice_eq_iff.mpr fun i _ => hpatched _ (by omega)
        · obtain ⟨hnext, hfront⟩ := ih hrest hsorted' hpatched
          rw [if_pos (herr.mpr hfails)]
          refine ⟨⟨?_, fun attr hattr hexist hnone => ?_, fun attr hattr hexist hfailed => ?_⟩,
            fun i hi => ?_⟩
          · rw [hnext.success, List.forall_mem_cons, and_iff_right hfails]
          · rcases List.mem_cons.mp hattr with rfl | hmem
            · refine Eq.trans ?_ hown
              exact slice_eq_iff.mpr fun i hi => hfront _ (by omega)
            · exact hnext.current attr hmem hexist fun other hother =>
                hnone other (List.mem_cons_of_mem _ hother)
          · obtain ⟨other, hother, hlt, hfailed⟩ := hfailed
            rcases List.mem_cons.mp hother with rfl | hbelow
            · exact absurd hfailed hfails
            · rcases List.mem_cons.mp hattr with rfl | hmem
              · exact absurd hlt (hbehind other hbelow).not_gt
              · exact hnext.stale attr hmem hexist ⟨other, hbelow, hlt, hfailed⟩
          · rw [hfront i (by omega), patch_of_lt hi]
      · -- the attribute is not fetched
        have hmask : (~~~(cls.invAttrMask ||| cls.optAttrMask)).has head = false := by
          rw [has_readMask]
          exact Bool.not_eq_true _ ▸ hread
        have hfails : ¬ cls.GetFails ref store head := fun h => hread h.1
        have hle : offset ≤ (if (~~~cls.invAttrMask).has head then
            offset + (cls.attrs head).size else offset) := by
          split <;> omega
        obtain ⟨hnext, hfront⟩ := ih hrest hsorted' fun i hi => hsame i (hle.trans hi)
        rw [fetchAttrs]
        simp only [hmask, Bool.not_false, if_true]
        refine ⟨⟨?_, fun attr hattr hexist hnone => ?_, fun attr hattr hexist hfailed => ?_⟩,
          fun i hi => hfront i (Nat.lt_of_lt_of_le hi hle)⟩
        · rw [hnext.success, List.forall_mem_cons, and_iff_right hfails]
        · rcases List.mem_cons.mp hattr with rfl | hmem
          · exact absurd hexist hread
          · exact hnext.current attr hmem hexist fun other hother =>
              hnone other (List.mem_cons_of_mem _ hother)
        · obtain ⟨other, hother, hlt, hfailed⟩ := hfailed
          rcases List.mem_cons.mp hother with rfl | hother
          · exact absurd hfailed hfails
          · rcases List.mem_cons.mp hattr with rfl | hmem
            · exact absurd hexist hread
            · exact hnext.stale attr hmem hexist ⟨other, hother, hlt, hfailed⟩

theorem pmMeIntervalSet_of_not_pm
    (hpm : hasProp cls.prop (MeProp.pm ||| MeProp.pmInternal) = false) (interval : PmInterval) :
    pmMeIntervalSet cls ref interval store = store := by
  rw [hasProp_or, Bool.or_eq_false_iff] at hpm
  simp [pmMeIntervalSet, hpm.1, hpm.2]

theorem meDataRead_store_of_not_pm
    (hpm : hasProp cls.prop (MeProp.pm ||| MeProp.pmInternal) = false) (interval : PmInterval) :
    (meDataRead cls ref interval store).1 = store := by
  rw [meDataRead]
  split
  · rfl
  · exact pmMeIntervalSet_of_not_pm hpm interval

/-- Reading an entity whose attributes are laid out in order refreshes them. -/
theorem meDataRead_refreshed (hlaid : cls.laidOut = true) (interval : PmInterval) :
    Refreshed cls ref (meDataRead cls ref interval store).1 (List.finRange 16)
      (meDataRead cls ref interval store).2 := by
  rw [meDataRead]
  split
  · rename_i hall
    have hnone : ∀ attr, ¬ cls.isMeAttrExist attr = true := by
      intro attr hexist
      rw [← has_readMask, hall] at hexist
      simp [AttrMask.has] at hexist
    exact ⟨iff_of_true rfl fun attr _ h => hnone attr h.1,
      fun attr _ h => absurd h (hnone attr), fun attr _ h => absurd h (hnone attr)⟩
  · exact (fetchAttrs_refreshed hlaid (List.pairwise_lt_finRange 16) fun _ _ => rfl).1

/-- Reading an entity whose attributes are laid out in order yields the current
values. -/
theorem meDataRead_laidOut (hlaid : cls.laidOut = true) {interval : PmInterval}
    (hget : ∀ attr, ¬ cls.GetFails ref (meDataRead cls ref interval store).1 attr) {attr : Attr}
    (hexist : cls.isMeAttrExist attr = true) :
    cls.attrValue attr (meDataRead cls ref interval store).2.2 =
      currentValue cls ref (meDataRead cls ref interval store).1 attr :=
  (meDataRead_refreshed hlaid interval).current attr (List.mem_finRange attr) hexist
    fun other _ _ => hget other

theorem meDataRead_success_iff (hlaid : cls.laidOut = true) {interval : PmInterval} :
    (meDataRead cls ref interval store).2.1 = .success ↔
      ∀ attr, ¬ cls.GetFails ref (meDataRead cls ref interval store).1 attr := by
  simpa using (meDataRead_refreshed hlaid interval).success

theorem not_getFails (hget : ∀ attr get, (cls.attrs attr).get = some get →
      (get.run ref store (cls.attrValue attr (store.me ref).bytes)).1 = .success) (attr : Attr) :
    ¬ cls.GetFails ref store attr := by
  rintro ⟨_, get, hsome, hfailed⟩
  exact hfailed (hget attr get hsome)

end LaidOut

end FalconGpon.Omci
