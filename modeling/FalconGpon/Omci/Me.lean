/-
# Managed entities and their classes

`struct me_attr`, `struct me_class` and `struct me` of `omci_me.h`. An attribute
number is an index into the class's table of sixteen attributes. The handlers of
a class are functions on the `Store`, which holds the attribute data of all
managed entities and whatever the drivers keep; init and shutdown handlers are
`Script`s, because they may also create and delete slave entities.

The masks that `mib_create` computes for each class are functions of its
attribute table.
-/

import FalconGpon.Lib.Literals
import FalconGpon.Omci.Message
import Mathlib.Data.List.FinRange
import Mathlib.Logic.Function.Basic

namespace FalconGpon.Omci

/-- Address of a `struct me`. -/
abbrev MeRef := Nat

abbrev ClassId := BitVec 16

abbrev InstanceId := BitVec 16

/-- `OMCI_ME_DATA_SIZE_MAX`. -/
def omciMeDataSizeMax : Nat := 376

/-! ## Attribute masks -/

abbrev Attr := Fin 16

abbrev AttrMask := BitVec 16

/-- `omci_attr2mask`. -/
def omciAttr2mask (attr : Attr) : AttrMask := 1#16 <<< (15 - attr.val)

def AttrMask.has (mask : AttrMask) (attr : Attr) : Bool :=
  mask &&& omciAttr2mask attr != 0

/-- The mask of the attributes with a property, as loops over all attributes
collect it. -/
def maskOf (p : Attr → Bool) : AttrMask :=
  (List.finRange 16).foldl
    (fun mask attr => if p attr then mask ||| omciAttr2mask attr else mask) 0

namespace AttrMask

theorem has_eq_getLsbD (mask : AttrMask) (attr : Attr) :
    mask.has attr = mask.getLsbD (15 - attr.val) := by
  rw [Bool.eq_iff_iff]
  simp only [has, omciAttr2mask, bne_iff_ne, ne_eq]
  constructor
  · intro hand
    by_contra hbit
    apply hand
    ext i hi
    simp
    grind
  · intro hbit hzero
    have hcongr := congrArg (fun m => m.getLsbD (15 - attr.val)) hzero
    simp at hcongr
    grind

@[simp]
theorem has_zero (attr : Attr) : AttrMask.has 0#16 attr = false := by
  simp [has_eq_getLsbD]

@[simp]
theorem has_or (first second : AttrMask) (attr : Attr) :
    AttrMask.has (first ||| second) attr = (first.has attr || second.has attr) := by
  simp [has_eq_getLsbD]

@[simp]
theorem has_and (first second : AttrMask) (attr : Attr) :
    AttrMask.has (first &&& second) attr = (first.has attr && second.has attr) := by
  simp [has_eq_getLsbD]

theorem has_xor (first second : AttrMask) (attr : Attr) :
    AttrMask.has (first ^^^ second) attr = (first.has attr ^^ second.has attr) := by
  simp [has_eq_getLsbD]

@[simp]
theorem has_not (mask : AttrMask) (attr : Attr) : AttrMask.has (~~~mask) attr = !mask.has attr := by
  have hindex : 15 - attr.val < 16 := by omega
  simp [has_eq_getLsbD, hindex]

@[simp]
theorem has_omciAttr2mask (attr other : Attr) :
    AttrMask.has (omciAttr2mask attr) other = decide (attr = other) := by
  revert attr other
  decide

private theorem has_foldl (p : Attr → Bool) (attrs : List Attr) (mask : AttrMask) (attr : Attr) :
    AttrMask.has (attrs.foldl
        (fun mask attr => if p attr then mask ||| omciAttr2mask attr else mask) mask)
      attr = (mask.has attr || (decide (attr ∈ attrs) && p attr)) := by
  induction attrs generalizing mask with
  | nil => simp
  | cons head rest ih =>
      rw [List.foldl_cons, ih]
      by_cases hp : p head = true
      · by_cases hhead : head = attr
        · simp [hhead ▸ hp, hhead]
        · simp [hp, hhead, Ne.symm hhead]
      · by_cases hhead : head = attr
        · simp [hhead ▸ hp, hhead]
        · simp [hp, Ne.symm hhead]

@[simp]
theorem has_maskOf (p : Attr → Bool) (attr : Attr) : (maskOf p).has attr = p attr := by
  rw [maskOf, has_foldl]
  simp

theorem ext_has {first second : AttrMask} (h : ∀ attr, first.has attr = second.has attr) :
    first = second := by
  apply BitVec.eq_of_getLsbD_eq
  intro i hi
  have hattr := h ⟨15 - i, by omega⟩
  rw [has_eq_getLsbD, has_eq_getLsbD] at hattr
  have hindex : 15 - (15 - i) = i := by omega
  simpa [hindex] using hattr

end AttrMask

/-! ## Properties -/

/-- `OMCI_ATTR_PROP_*`, a set of flags. -/
abbrev AttrProp := BitVec 16

namespace AttrProp

def none : AttrProp := 0x0000
def rd : AttrProp := 0x0001
def wr : AttrProp := 0x0002
def sbc : AttrProp := 0x0004
def avc : AttrProp := 0x0008
def noUpload : AttrProp := 0x0020
def table : AttrProp := 0x0040
def notSupported : AttrProp := 0x0100

end AttrProp

/-- `OMCI_ME_PROP_*`, a set of flags. -/
abbrev MeProp := BitVec 16

namespace MeProp

def noUpload : MeProp := 0x0001
def hasAlarms : MeProp := 0x0002
def hasArc : MeProp := 0x0004
def pm : MeProp := 0x0008
def pmInternal : MeProp := 0x0010

end MeProp

def hasProp (prop flags : BitVec 16) : Bool := prop &&& flags != 0

theorem hasProp_or (prop flags flags' : BitVec 16) :
    hasProp prop (flags ||| flags') = (hasProp prop flags || hasProp prop flags') := by
  have hdistrib : prop &&& (flags ||| flags') = (prop &&& flags) ||| (prop &&& flags') := by
    ext i
    simp [Bool.and_or_distrib_left]
  rw [Bool.eq_iff_iff]
  simp only [hasProp, hdistrib, bne_iff_ne, ne_eq, Bool.or_eq_true, BitVec.ofNat_eq_ofNat,
    BitVec.or_eq_zero_iff]
  tauto

/-! ## Instances and the store -/

/-- `enum omci_pm_interval`, as far as handlers see it. -/
inductive PmInterval
  | curr
  | hist
  | abs
deriving DecidableEq

abbrev Buffer := Nat → Byte

/-- What is kept about the data of one managed entity. `me->data` points to one
of three buffers; only internal PM entities use more than the first, and only
for them do the interval pointers mean anything. -/
structure MeData where
  isInitialized : Bool
  buffer : Fin 3 → Buffer
  /-- Where `me->data` points. -/
  data : Fin 3
  /-- `me->pm->interval[OMCI_PM_INTERVAL_CURR]`. -/
  curr : Fin 3
  /-- `me->pm->interval[OMCI_PM_INTERVAL_HIST]`. -/
  hist : Fin 3
  /-- `me->pm->interval[OMCI_PM_INTERVAL_ABS]`. -/
  abs : Fin 3

/-- The bytes `me->data` points to. -/
def MeData.bytes (me : MeData) : Buffer := me.buffer me.data

/-- `me->pm->interval[interval]`. -/
def MeData.interval (me : MeData) : PmInterval → Fin 3
  | .curr => me.curr
  | .hist => me.hist
  | .abs => me.abs

/-- `struct mib_me_list_entry`, without the link. -/
structure MeEntry where
  ref : MeRef
  instanceId : InstanceId
  active : Bool
  /-- The record has not been freed. -/
  live : Bool
deriving DecidableEq

def MeEntry.key (entry : MeEntry) : Nat := entry.instanceId.toNat

/-- Overwrite the bytes `me->data` points to. -/
def MeData.write (me : MeData) (bytes : Buffer) : MeData :=
  { me with buffer := Function.update me.buffer me.data bytes }

@[simp]
theorem MeData.write_bytes (me : MeData) (bytes : Buffer) : (me.write bytes).bytes = bytes := by
  simp [MeData.write, MeData.bytes]

/-- What handlers read and write without creating and deleting: the data of all
managed entities, and everything else there is. They also see the lists of the MIB,
for lookups and walks; what they write there does not reach the MIB. -/
structure Store (ω : Type) where
  me : MeRef → MeData
  meList : ClassId → List MeEntry
  outer : ω

def Store.setMe {ω : Type} (store : Store ω) (ref : MeRef) (me : MeData) : Store ω :=
  { store with me := fun other => if other = ref then me else store.me other }

@[simp]
theorem Store.setMe_me_self {ω : Type} (store : Store ω) (ref : MeRef) (me : MeData) :
    (store.setMe ref me).me ref = me := by
  simp [setMe]

/-- Change the bytes `me->data` of an entity points to. -/
def Store.modify {ω : Type} (store : Store ω) (ref : MeRef) (change : Buffer → Buffer) : Store ω :=
  store.setMe ref ((store.me ref).write (change (store.me ref).bytes))

@[simp]
theorem Store.modify_bytes {ω : Type} (store : Store ω) (ref : MeRef) (change : Buffer → Buffer) :
    ((store.modify ref change).me ref).bytes = change (store.me ref).bytes := by
  simp [Store.modify]

/-! ## Classes -/

/-- `me_get_handler`: fills in the bytes of one attribute, in place. -/
structure GetHandler (ω : Type) where
  run : MeRef → Store ω → List Byte → OmciError × List Byte
  length : ∀ ref store buff, (run ref store buff).2.length = buff.length

/-- `struct me_attr`. -/
structure MeAttr (ω : Type) where
  offset : Nat
  size : Nat
  prop : AttrProp
  get : Option (GetHandler ω)

/-- What an init or shutdown handler does, or `mib_on_reset`, step by step: work on
its own account, look up, create and delete managed entities, and return. -/
inductive Script (ω : Type)
  | done (err : OmciError)
  | work (run : Store ω → Store ω × OmciError) (next : OmciError → Script ω)
  | find (classId : ClassId) (instanceId : InstanceId) (next : Option MeRef → Script ω)
  | create (active : Bool) (classId : ClassId) (instanceId : InstanceId)
      (initData : Option (List Byte)) (suppressAvc : AttrMask) (next : OmciError → Option MeRef → Script ω)
  | delete (classId : ClassId) (instanceId : InstanceId) (next : OmciError → Script ω)

/-- The script creates and deletes managed entities of the allowed classes
only. -/
def Script.Only {ω : Type} (allowed : ClassId → Prop) : Script ω → Prop
  | .done _ => True
  | .work _ next => ∀ err, (next err).Only allowed
  | .find _ _ next => ∀ me, (next me).Only allowed
  | .create _ classId _ _ _ next =>
      allowed classId ∧ ∀ err me, (next err me).Only allowed
  | .delete classId _ next => allowed classId ∧ ∀ err, (next err).Only allowed

/-- `me_validate_handler`: the error and the execution mask. -/
abbrev ValidateHandler (ω : Type) := Store ω → Buffer → OmciError × AttrMask

/-- `me_update_handler`: it may change the attribute data it is given. -/
abbrev UpdateHandler (ω : Type) :=
  MeRef → Store ω → Buffer → AttrMask → Store ω × OmciError × Buffer

/-- `me_counters_get_handler`. -/
abbrev CountersGetHandler (ω : Type) := MeRef → PmInterval → Store ω → Store ω

/-- `me_thr_set_handler`: it is given the thresholds. -/
abbrev ThrSetHandler (ω : Type) := MeRef → List (BitVec 32) → Store ω → Store ω

/-- A handler of an action table (`me_action_handler`); `other` stands for those that
only work on the store. -/
inductive MeAction (ω : Type)
  | create
  | delete
  | set
  | get
  | getNext
  | getAllAlarms
  | getAllAlarmsNext
  | mibUpload
  | mibUploadNext
  | mibReset
  | startDl
  | dlSection
  | endDl
  | activateImage
  | commitImage
  | other (run : MeRef → Store ω → OmciMsg → OmciMsg → Store ω × OmciError × OmciMsg)

/-- `struct me_class`. -/
structure MeClass (ω : Type) where
  classId : ClassId
  attrs : Attr → MeAttr ω
  actions : Byte → Option (MeAction ω)
  init : Option (MeRef → InstanceId → Option (List Byte) → AttrMask → Script ω)
  shutdown : Option (MeRef → InstanceId → Script ω)
  validate : Option (ValidateHandler ω)
  update : Option (UpdateHandler ω)
  countersGet : Option (CountersGetHandler ω)
  thrSet : Option (ThrSetHandler ω)
  dataSize : Nat
  prop : MeProp

namespace MeClass

variable {ω : Type} (cls : MeClass ω)

/-- `is_me_attr_exist`. -/
def isMeAttrExist (attr : Attr) : Bool :=
  !(hasProp (cls.attrs attr).prop AttrProp.notSupported || (cls.attrs attr).prop == AttrProp.none)

theorem supported_of_isMeAttrExist {attr : Attr} (h : cls.isMeAttrExist attr = true) :
    hasProp (cls.attrs attr).prop AttrProp.notSupported = false := by
  simp only [isMeAttrExist, Bool.not_eq_true', Bool.or_eq_false_iff] at h
  exact h.1

/-! The masks that `mib_create` collects. -/

def invAttrMask : AttrMask := maskOf fun attr => (cls.attrs attr).prop == AttrProp.none
def optAttrMask : AttrMask := maskOf fun attr => hasProp (cls.attrs attr).prop AttrProp.notSupported
def avcAttrMask : AttrMask := maskOf fun attr => hasProp (cls.attrs attr).prop AttrProp.avc
def wrAttrMask : AttrMask := maskOf fun attr => hasProp (cls.attrs attr).prop AttrProp.wr

def attrSum (attr : Attr) : Nat :=
  (((List.finRange 16).filter fun other => decide (other < attr)).map
    fun other => (cls.attrs other).size).sum

/-- `mib_create` accepts the class. -/
def isAccepted : Bool :=
  ((List.finRange 16).all fun attr =>
    cls.dataSize == 0 ||
      (decide ((cls.attrs attr).offset + (cls.attrs attr).size ≤ cls.dataSize) &&
        decide (cls.attrSum attr + (cls.attrs attr).size ≤ cls.dataSize))) &&
    ((List.finRange 16).map fun attr => (cls.attrs attr).size).sum == cls.dataSize &&
    decide (cls.dataSize ≤ omciMeDataSizeMax) && cls.update.isSome

end MeClass

end FalconGpon.Omci
