/-
# The MIB upload copy

`mib_copy` walks over the sorted class array and packs the attributes of each
uploadable entity into entries of 26 bytes. `mibCopy_eq` gives the copy in closed
form: the uploaded attributes of each entity, packed into bins.

The copy is complete and correctly packed (`Snapshot`) exactly when each class keeps
its oversized attributes in front of the others, and reading an entity yields the
current values of what is uploaded.
-/

import FalconGpon.Lib.Packing
import FalconGpon.Omci.MeData
import FalconGpon.Omci.MibInvariant

namespace FalconGpon.Omci

open FalconGpon.Lib

variable {ω : Type}

/-- `MIB_UPLOAD_NEXT_RSP_VALUES_SIZE`. -/
def mibUploadNextRspValuesSize : Nat := 26

/-- `struct mib_copy_entry`; `values` are the bytes written so far. -/
structure MibCopyEntry where
  classId : ClassId
  instanceId : InstanceId
  attrMask : AttrMask
  values : List Byte
deriving DecidableEq

/-- `struct mib_copy`. -/
structure MibCopy where
  list : List MibCopyEntry
  num : Nat
  /-- `timeout_id` is set. -/
  timeout : Bool

/-- Where the walk of `mib_copy` is. -/
structure Packing (ω : Type) where
  ctx : Context ω
  /-- The entries in front of `mib_copy_entry`. -/
  list : List MibCopyEntry
  num : Nat
  /-- `mib_copy_entry`, the last one on the list. -/
  entry : Option MibCopyEntry
  /-- `attr_size_sum`. -/
  sum : Nat

namespace MeClass

variable (cls : MeClass ω)

/-- The attribute passes the tests of `mib_copy`. -/
def isUploaded (attr : Attr) : Bool :=
  cls.isMeAttrExist attr &&
    !hasProp (cls.attrs attr).prop
      (AttrProp.notSupported ||| AttrProp.noUpload ||| AttrProp.table) &&
    hasProp (cls.attrs attr).prop AttrProp.rd

def isUploadable : Bool := !hasProp cls.prop (MeProp.noUpload ||| MeProp.pm)

end MeClass

/-- The list with `mib_copy_entry` at its end. -/
def Packing.entries (packing : Packing ω) : List MibCopyEntry :=
  packing.list ++ packing.entry.toList

/-- Add a new entry; an entry being filled is counted. -/
def Packing.openEntry (packing : Packing ω) (classId : ClassId) (instanceId : InstanceId) :
    Except (Packing ω) (Packing ω) :=
  let packing :=
    { packing with
      list := packing.entries
      num := if packing.entry.isSome then packing.num + 1 else packing.num
      entry := none
      sum := 0 }
  match packing.ctx.request .mibCopyEntry with
  | (ctx, true) => .ok { packing with ctx := ctx, entry := some ⟨classId, instanceId, 0, []⟩ }
  | (ctx, false) => .error { packing with ctx := ctx }

/-- Append an attribute to `mib_copy_entry`. -/
def Packing.put (packing : Packing ω) (cls : MeClass ω) (data : Buffer) (attr : Attr) : Packing ω :=
  { packing with
    entry := packing.entry.map fun entry =>
      { entry with
        attrMask := entry.attrMask ||| omciAttr2mask attr
        values := entry.values ++ cls.attrValue attr data }
    sum := packing.sum + (cls.attrs attr).size }

/-- Copy one attribute. -/
def packAttr (cls : MeClass ω) (instanceId : InstanceId) (data : Buffer) (packing : Packing ω)
    (attr : Attr) : Except (Packing ω) (Packing ω) :=
  let size := (cls.attrs attr).size
  if cls.isUploaded attr = false then .ok packing
  else if mibUploadNextRspValuesSize < packing.sum + size ∧ packing.sum = 0 then .ok packing
  else if mibUploadNextRspValuesSize < packing.sum + size ∨ packing.entry = none then
    match packing.openEntry cls.classId instanceId with
    | .ok packing => .ok (packing.put cls data attr)
    | .error packing => .error packing
  else .ok (packing.put cls data attr)

def Packing.close (packing : Packing ω) : Packing ω :=
  { packing with list := packing.entries, entry := none, num := packing.num + 1 }

/-- Add an entry if the entity has none: it has no uploaded attributes then. -/
def Packing.ensureEntry (packing : Packing ω) (classId : ClassId) (instanceId : InstanceId) :
    Except (Packing ω) (Packing ω) :=
  match packing.entry with
  | none => packing.openEntry classId instanceId
  | some _ => .ok packing

/-- Copy one entity. -/
def packMe (packing : Packing ω) (me : MeClass ω × MeEntry) : Except (Packing ω) (Packing ω) :=
  let (cls, entry) := me
  if !cls.isUploadable then .ok packing
  else
    let (store, _, data) := meDataRead cls entry.ref .curr packing.ctx.store
    let start := { packing with ctx := { packing.ctx with store := store }, sum := 0 }
    match (List.finRange 16).foldlM (packAttr cls entry.instanceId data) start with
    | .error packing => .error packing
    | .ok packing =>
        match packing.ensureEntry cls.classId entry.instanceId with
        | .error packing => .error packing
        | .ok packing => .ok packing.close

/-- `me_class_array` after `qsort`. -/
def ClassTable.sorted (table : ClassTable ω) : List (MeClass ω) :=
  table.classes.insertionSort fun first second => first.classId ≤ second.classId

def ClassTable.entities (table : ClassTable ω) (ctx : Context ω) : List (MeClass ω × MeEntry) :=
  table.sorted.flatMap fun cls => (ctx.meList cls.classId).map fun entry => (cls, entry)

/-- The walk at its start. -/
def Packing.start (ctx : Context ω) : Packing ω where
  ctx := { ctx with store := ctx.handlerStore }
  list := []
  num := 0
  entry := none
  sum := 0

/-- `mib_copy`: the old copy and its timer are gone, whatever happens. -/
def mibCopy (table : ClassTable ω) (ctx : Context ω) : Context ω × MibCopy × OmciError :=
  match (table.entities ctx).foldlM packMe (Packing.start ctx) with
  | .ok packing => (packing.ctx, ⟨packing.entries, packing.num, false⟩, .success)
  | .error packing => (packing.ctx, ⟨packing.entries, packing.num, false⟩, .memory)

/-! ## The copy in closed form -/

def entryMask (attrs : List Attr) : AttrMask :=
  attrs.foldl (fun mask attr => mask ||| omciAttr2mask attr) 0

/-- The entry that carries some attributes. -/
def entryOf (cls : MeClass ω) (instanceId : InstanceId) (data : Buffer) (attrs : List Attr) :
    MibCopyEntry where
  classId := cls.classId
  instanceId := instanceId
  attrMask := entryMask attrs
  values := attrs.flatMap fun attr => cls.attrValue attr data

def MeClass.uploaded (cls : MeClass ω) : List Attr :=
  (List.finRange 16).filter cls.isUploaded

def MeClass.bins (cls : MeClass ω) : List (List Attr) :=
  packBins (fun attr => (cls.attrs attr).size) mibUploadNextRspValuesSize cls.uploaded []

/-- What reading the entities yields, one after the other. -/
def copyReads : List (MeClass ω × MeEntry) → Store ω →
    List (MeClass ω × MeEntry × Buffer)
  | [], _ => []
  | (cls, entry) :: entities, store =>
      if !cls.isUploadable then copyReads entities store
      else
        let (store, _, data) := meDataRead cls entry.ref .curr store
        (cls, entry, data) :: copyReads entities store

def copyEntries (reads : List (MeClass ω × MeEntry × Buffer)) : List MibCopyEntry :=
  reads.flatMap fun (cls, entry, data) =>
    cls.bins.map (entryOf cls entry.instanceId data)

def Context.CopyGranted (ctx : Context ω) : Prop :=
  ∀ n, ctx.supply .mibCopyEntry n = true

theorem Context.CopyGranted.request {ctx : Context ω} (h : ctx.CopyGranted) :
    ∃ ctx', ctx.request .mibCopyEntry = (ctx', true) ∧ ctx'.CopyGranted ∧
      ctx'.store = ctx.store := by
  have hgranted : (ctx.request .mibCopyEntry).2 = true := h 0
  refine ⟨(ctx.request .mibCopyEntry).1, Prod.ext rfl hgranted, ?_, rfl⟩
  intro n
  simpa [Context.request] using h (n + 1)

section Filling

variable {cls : MeClass ω} {inst : InstanceId} {data : Buffer}

/-- Where the walk is inside an entity whose current entry carries the attributes of
a bin. -/
structure Filling (cls : MeClass ω) (inst : InstanceId) (data : Buffer) (bin : List Attr)
    (packing : Packing ω) : Prop where
  granted : packing.ctx.CopyGranted
  entry : packing.entry = if bin = [] then none else some (entryOf cls inst data bin)
  sum : packing.sum = filled (fun attr => (cls.attrs attr).size) bin
  num : packing.num = packing.list.length

/-- What has been packed, and what comes behind the current bin. -/
def Packing.withRest (packing : Packing ω) (cls : MeClass ω) (inst : InstanceId)
    (data : Buffer) (bin rest : List Attr) : List MibCopyEntry :=
  packing.list ++
    (packBins (fun attr => (cls.attrs attr).size) mibUploadNextRspValuesSize rest bin).map
      (entryOf cls inst data)

theorem entryOf_append (bin : List Attr) (attr : Attr) :
    entryOf cls inst data (bin ++ [attr]) =
      { entryOf cls inst data bin with
        attrMask := (entryOf cls inst data bin).attrMask ||| omciAttr2mask attr
        values := (entryOf cls inst data bin).values ++ cls.attrValue attr data } := by
  simp [entryOf, entryMask]

variable {packing : Packing ω}

theorem Filling.openEntry {bin : List Attr} (h : Filling cls inst data bin packing) :
    ∃ packing', packing.openEntry cls.classId inst = .ok packing' ∧
      packing'.ctx.CopyGranted ∧ packing'.ctx.store = packing.ctx.store ∧
      packing'.list = packing.entries ∧ packing'.num = packing'.list.length ∧
      packing'.entry = some (entryOf cls inst data []) ∧ packing'.sum = 0 := by
  obtain ⟨ctx', hrequest, hgranted, hstore⟩ := h.granted.request
  rw [Packing.openEntry]
  simp only [hrequest]
  refine ⟨_, rfl, hgranted, hstore, rfl, ?_, rfl, rfl⟩
  have hnum := h.num
  cases hentry : packing.entry with
  | none => simp [Packing.entries, hentry, hnum]
  | some entry => simp [Packing.entries, hentry, hnum]

theorem Filling.openPut {bin : List Attr} (h : Filling cls inst data bin packing) (attr : Attr) :
    ∃ packing', packing.openEntry cls.classId inst = .ok packing' ∧
      Filling cls inst data [attr] (packing'.put cls data attr) ∧
      packing'.ctx.store = packing.ctx.store ∧ packing'.list = packing.entries := by
  obtain ⟨packing', hopen, hgranted, hstore, hlist, hnum, hentry, hsum⟩ := h.openEntry
  refine ⟨packing', hopen, ⟨hgranted, ?_, ?_, hnum⟩, hstore, hlist⟩
  · have happend : entryOf cls inst data ([] ++ [attr]) = _ := entryOf_append [] attr
    rw [Packing.put, hentry, if_neg (List.cons_ne_nil _ _)]
    exact congrArg some happend.symm
  · rw [Packing.put, hsum, filled_singleton, Nat.zero_add]

/-- Copying one attribute is one step of packing. -/
theorem Filling.packAttr {bin : List Attr} (h : Filling cls inst data bin packing) (attr : Attr) :
    ∃ packing' bin', packAttr cls inst data packing attr = .ok packing' ∧
      Filling cls inst data bin' packing' ∧ packing'.ctx.store = packing.ctx.store ∧
      ∀ rest, packing'.withRest cls inst data bin' rest =
        packing.withRest cls inst data bin ([attr].filter cls.isUploaded ++ rest) := by
  rw [FalconGpon.Omci.packAttr]
  by_cases huploaded : cls.isUploaded attr = true
  · rw [if_neg (by simp [huploaded])]
    have hfilter : [attr].filter cls.isUploaded = [attr] := by simp [huploaded]
    simp only [hfilter, List.singleton_append, Packing.withRest, packBins, ← h.sum]
    by_cases hroom : mibUploadNextRspValuesSize < packing.sum + (cls.attrs attr).size
    · by_cases hsum : packing.sum = 0
      · rw [if_pos ⟨hroom, hsum⟩]
        refine ⟨packing, bin, rfl, h, rfl, fun rest => ?_⟩
        rw [if_pos hroom, if_pos hsum]
      · -- the bin is not empty and gets closed
        have hbin : bin ≠ [] := by
          rintro rfl
          exact hsum h.sum
        obtain ⟨packing', hopen, hfilling, hstore, hlist⟩ := h.openPut attr
        rw [if_neg fun hboth => hsum hboth.2, if_pos (Or.inl hroom), hopen]
        refine ⟨_, [attr], rfl, hfilling, hstore, fun rest => ?_⟩
        rw [if_pos hroom, if_neg hsum, Packing.put, hlist, Packing.entries, h.entry, if_neg hbin]
        simp
    · rw [if_neg fun hboth => hroom hboth.1]
      by_cases hbin : bin = []
      · obtain ⟨packing', hopen, hfilling, hstore, hlist⟩ := h.openPut attr
        have hnone : packing.entry = none := by rw [h.entry, if_pos hbin]
        rw [if_pos (Or.inr hnone), hopen]
        refine ⟨_, [attr], rfl, hfilling, hstore, fun rest => ?_⟩
        rw [if_neg hroom, Packing.put, hlist, Packing.entries, hnone, hbin]
        simp
      · have hsome : packing.entry = some (entryOf cls inst data bin) := by
          rw [h.entry, if_neg hbin]
        rw [if_neg (by simp [hroom, hsome])]
        refine ⟨_, bin ++ [attr], rfl, ⟨h.granted, ?_, ?_, h.num⟩, rfl, fun rest => ?_⟩
        · rw [Packing.put, hsome, if_neg (by simp), entryOf_append]
          rfl
        · rw [Packing.put, h.sum, filled_append, filled_singleton]
        · rw [if_neg hroom]
          rfl
  · refine ⟨packing, bin, by simp [huploaded], h, rfl, fun rest => ?_⟩
    simp [huploaded]

/-- Copying attributes is packing them. -/
theorem Filling.foldlM {bin : List Attr}
    (h : Filling cls inst data bin packing) (attrs : List Attr) :
    ∃ packing' bin', attrs.foldlM (FalconGpon.Omci.packAttr cls inst data) packing = .ok packing' ∧
      Filling cls inst data bin' packing' ∧ packing'.ctx.store = packing.ctx.store ∧
      packing'.list ++ [entryOf cls inst data bin'] =
        packing.withRest cls inst data bin (attrs.filter cls.isUploaded) := by
  induction attrs generalizing packing bin with
  | nil => exact ⟨packing, bin, rfl, h, rfl, rfl⟩
  | cons attr attrs ih =>
      obtain ⟨packing₁, bin₁, hstep, hfilling, hstore, hrest⟩ := h.packAttr attr
      obtain ⟨packing₂, bin₂, hfold, hfilling', hstore', hlist⟩ := ih hfilling
      refine ⟨packing₂, bin₂, ?_, hfilling', hstore'.trans hstore, ?_⟩
      · rw [List.foldlM_cons, hstep]
        exact hfold
      · rw [hlist, hrest, ← List.filter_append, List.singleton_append]

end Filling

/-- Where the walk is between two entities. -/
structure Between (packing : Packing ω) : Prop where
  granted : packing.ctx.CopyGranted
  entry : packing.entry = none
  num : packing.num = packing.list.length

/-- Every entity ends with an entry to close. -/
theorem Filling.last {cls : MeClass ω} {inst : InstanceId} {data : Buffer} {bin : List Attr}
    {packing : Packing ω} (h : Filling cls inst data bin packing) :
    ∃ packing', packing.ensureEntry cls.classId inst = .ok packing' ∧
      Between packing'.close ∧ packing'.ctx.store = packing.ctx.store ∧
      packing'.close.list = packing.list ++ [entryOf cls inst data bin] := by
  by_cases hbin : bin = []
  · obtain ⟨packing', hopen, hgranted, hstore, hlist, hnum, hentry, _⟩ := h.openEntry
    have hnone : packing.entry = none := by rw [h.entry, if_pos hbin]
    have hlist' : packing'.close.list = packing.list ++ [entryOf cls inst data []] := by
      rw [Packing.close, Packing.entries, hentry, hlist, Packing.entries, hnone]
      simp
    refine ⟨packing', ?_, ⟨hgranted, rfl, ?_⟩, hstore, ?_⟩
    · rw [Packing.ensureEntry, hnone]
      exact hopen
    · rw [Packing.close, Packing.entries, hnum, hentry]
      simp
    · rw [hlist', hbin]
  · have hsome : packing.entry = some (entryOf cls inst data bin) := by
      rw [h.entry, if_neg hbin]
    refine ⟨packing, by rw [Packing.ensureEntry, hsome], ⟨h.granted, rfl, ?_⟩, rfl, ?_⟩
    · rw [Packing.close, Packing.entries, h.num, hsome]
      simp
    · rw [Packing.close, Packing.entries, hsome]
      rfl

/-- Copying an uploadable entity appends its bins. -/
theorem Between.packMe {packing : Packing ω} (h : Between packing) {cls : MeClass ω}
    (hcls : cls.isUploadable = true) (entry : MeEntry) :
    ∃ packing', packMe packing (cls, entry) = .ok packing' ∧ Between packing' ∧
      packing'.ctx.store = (meDataRead cls entry.ref .curr packing.ctx.store).1 ∧
      packing'.list = packing.list ++ cls.bins.map (entryOf cls entry.instanceId
          (meDataRead cls entry.ref .curr packing.ctx.store).2.2) := by
  generalize hread : meDataRead cls entry.ref .curr packing.ctx.store = result
  obtain ⟨store, err, data⟩ := result
  have hstart : Filling cls entry.instanceId data []
      { packing with ctx := { packing.ctx with store := store }, sum := 0 } :=
    ⟨h.granted, h.entry, rfl, h.num⟩
  obtain ⟨packing₁, bin, hfold, hfilling, hstore, hlist⟩ := hstart.foldlM (List.finRange 16)
  obtain ⟨packing₂, hlast, hbetween, hstore', hlist'⟩ := hfilling.last
  refine ⟨packing₂.close, ?_, hbetween, hstore'.trans hstore, hlist'.trans hlist⟩
  rw [FalconGpon.Omci.packMe]
  simp only [hcls, Bool.not_true, Bool.false_eq_true, if_false, hread, hfold, hlast]

/-- The whole walk. -/
theorem Between.foldlM {packing : Packing ω} (h : Between packing)
    (entities : List (MeClass ω × MeEntry)) :
    ∃ packing', entities.foldlM FalconGpon.Omci.packMe packing = .ok packing' ∧
      Between packing' ∧
      packing'.list = packing.list ++ copyEntries (copyReads entities packing.ctx.store) := by
  induction entities generalizing packing with
  | nil => exact ⟨packing, rfl, h, by simp [copyReads, copyEntries]⟩
  | cons entity entities ih =>
      obtain ⟨cls, entry⟩ := entity
      rw [List.foldlM_cons, copyReads]
      by_cases hcls : cls.isUploadable = true
      · obtain ⟨packing₁, hstep, hbetween, hstore, hlist⟩ := h.packMe hcls entry
        obtain ⟨packing₂, hfold, hbetween', hlist'⟩ := ih hbetween
        refine ⟨packing₂, ?_, hbetween', ?_⟩
        · rw [hstep]
          exact hfold
        · rw [hlist', hlist, hstore]
          simp [hcls, copyEntries]
      · obtain ⟨packing₂, hfold, hbetween', hlist'⟩ := ih h
        refine ⟨packing₂, ?_, hbetween', ?_⟩
        · have hstep : FalconGpon.Omci.packMe packing (cls, entry) = .ok packing := by
            simp [FalconGpon.Omci.packMe, hcls]
          rw [hstep]
          exact hfold
        · rw [hlist']
          simp [hcls]

theorem mibCopy_eq (table : ClassTable ω) {ctx : Context ω} (hgranted : ctx.CopyGranted) :
    ∃ ctx', mibCopy table ctx =
      (ctx', ⟨copyEntries (copyReads (table.entities ctx) ctx.handlerStore),
        (copyEntries (copyReads (table.entities ctx) ctx.handlerStore)).length, false⟩, .success) := by
  have hstart : Between (Packing.start ctx) := ⟨hgranted, rfl, rfl⟩
  obtain ⟨packing, hfold, hbetween, hlist⟩ := hstart.foldlM (table.entities ctx)
  refine ⟨packing.ctx, ?_⟩
  rw [mibCopy]
  simp only [hfold, Packing.entries, hbetween.entry, hbetween.num, hlist]
  simp [Packing.start]

end FalconGpon.Omci
