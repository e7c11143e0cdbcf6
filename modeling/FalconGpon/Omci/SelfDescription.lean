/-
# Self-description

A Managed Entity ME describes a class: tables list the Attribute MEs of its attributes, the
numbers of the attributes that are notified about, and its instances. An Attribute ME describes
an attribute; its instance id has the position of the attribute in its upper four bits and the
class in the other twelve.

Each table is counted by one walk, allocated, and filled by another. The class array is sorted
by class identifier.
-/

import FalconGpon.Lib.Chunks
import FalconGpon.Omci.MibSnapshot

namespace FalconGpon.Omci

open FalconGpon.Lib

variable {ω : Type}

/-! ## What is described -/

/-- `enum omci_attr_type`. -/
inductive AttrType
  | unknown
  | ptr
  | bf
  | int
  | uint
  | str
  | enum
  | tbl
deriving DecidableEq

def AttrType.code : AttrType → Byte
  | .unknown => 0
  | .ptr => 1
  | .bf => 2
  | .int => 3
  | .uint => 4
  | .str => 5
  | .enum => 6
  | .tbl => 7

def AttrType.isNumeric (format : AttrType) : Bool :=
  format == .ptr || format == .int || format == .uint

/-- What `struct me_attr` has beyond a `MeAttr`. No code points are `NULL`. -/
structure AttrDesc where
  name : List Byte
  format : AttrType
  lowerLimit : BitVec 64
  upperLimit : BitVec 64
  bitField : BitVec 32
  codePoints : List (BitVec 16)
  support : Byte

/-- The order of the bytes of a number in the memory of the ONU. -/
inductive ByteOrder
  | big
  | little

/-- What the self-description MEs are read from. -/
structure SelfDesc (ω : Type) where
  table : ClassTable ω
  ctx : Context ω
  wellFormed : Context.MibInv table ctx
  attrDesc : ClassId → Attr → AttrDesc
  /-- `desc.alarm_table`; none is `NULL`. -/
  alarmTable : ClassId → List Byte
  order : ByteOrder

def omciMeOmci : ClassId := 287
def omciMeManagedEntity : ClassId := 288
def omciMeAttribute : ClassId := 289

def MeClass.isDefined (cls : MeClass ω) (attr : Attr) : Bool :=
  (cls.attrs attr).prop != AttrProp.none

def MeClass.isAvc (cls : MeClass ω) (attr : Attr) : Bool :=
  hasProp (cls.attrs attr).prop AttrProp.avc

/-- `hton16`, with the bytes as they are stored. -/
def hton16 (x : BitVec 16) : List Byte := [x.extractLsb' 8 8, x.extractLsb' 0 8]

/-- The instance id of the Attribute ME of an attribute of a class. -/
def attributeMeId (classId : ClassId) (i : Nat) : InstanceId := BitVec.ofNat 16 i <<< 12 ||| classId

/-! ## Tables -/

/-- `IFXOS_MemAlloc`: the memory it gives, with what is in it. -/
structure Heap where
  memAlloc : Nat → Option (List Byte)
  length : ∀ size data, memAlloc size = some data → data.length = size

/-- What a `tbl_copy` handler leaves in the copy; `beyond` tells that it has written outside the
data. -/
structure TblOut where
  data : Option (List Byte)
  dataSize : Nat
  beyond : Bool

def TblOut.empty : TblOut := ⟨none, 0, false⟩

/-- Allocate the data and write the elements. -/
def Heap.fill (heap : Heap) (size : Nat) (elements : List (List Byte)) : Except OmciError TblOut :=
  match heap.memAlloc size with
  | none => .error .memory
  | some data =>
      let filling := elements.foldl Filling.push ⟨data, 0, false⟩
      .ok ⟨some filling.data, size, filling.beyond⟩

/-- The first loop of `attr_tbl_get`. -/
def MeClass.attrCount (cls : MeClass ω) : List Attr → Nat → Nat
  | [], count => count
  | attr :: rest, count => if cls.isDefined attr then cls.attrCount rest attr.val else count

def attrTblGet (heap : Heap) : Option (MeClass ω) → Except OmciError TblOut
  | none => .ok .empty
  | some cls =>
      let count := cls.attrCount (List.finRange 16) 0
      if count = 0 then .ok .empty
      else
        heap.fill ((count + 1) * 2)
          ((List.range (count + 1)).map fun i => hton16 (attributeMeId cls.classId i))

def avcTblGet (heap : Heap) : Option (MeClass ω) → Except OmciError TblOut
  | none => .ok .empty
  | some cls =>
      let count := (List.finRange 16).countP cls.isAvc
      if count = 0 then .ok .empty
      else heap.fill count (((List.finRange 16).filter cls.isAvc).map fun i : Attr => [.ofNat 8 (i + 1)])

namespace SelfDesc

variable (sd : SelfDesc ω) (heap : Heap) (instanceId : InstanceId)

def alarmTblGet : Option (MeClass ω) → Except OmciError TblOut
  | none => .ok .empty
  | some cls =>
      let alarms := sd.alarmTable cls.classId
      if alarms = [] then .ok .empty else heap.fill alarms.length (alarms.map fun alarm => [alarm])

def instTblGet (related : Option (MeClass ω)) : Except OmciError TblOut :=
  if instanceId = omciMeOmci then heap.fill 2 [[0, 0]]
  else if instanceId = omciMeManagedEntity then
    heap.fill (sd.table.sorted.length * 2) (sd.table.sorted.map fun cls => hton16 cls.classId)
  else if instanceId &&& 0x0fff = omciMeAttribute then
    -- The loops go over the MEs of the MIB, not over its classes.
    let count := ((sd.table.entities sd.ctx).map fun me =>
      (List.finRange 16).countP me.1.isDefined).sum
    heap.fill (count * 2) ((sd.table.entities sd.ctx).flatMap fun me =>
      ((List.finRange 16).filter me.1.isDefined).map fun i : Attr =>
        hton16 (attributeMeId me.1.classId i))
  else
    match related with
    | none => .error .error -- an assertion, see `me_tbl_copy`
    | some cls =>
        let count := (sd.ctx.meList cls.classId).length
        if count = 0 then .ok .empty
        else
          heap.fill (count * 2)
            ((sd.ctx.meList cls.classId).map fun entry => hton16 entry.instanceId)

/-- The tables of a Managed Entity ME. -/
inductive Table
  | attr
  | alarm
  | avc
  | inst

/-- `me_tbl_copy` of Managed Entity MEs, for the attributes that are tables. -/
def meTblCopy (table : Table) : Except OmciError TblOut :=
  let copy := fun related : Option (MeClass ω) =>
    match table with
    | .attr => attrTblGet heap related
    | .alarm => sd.alarmTblGet heap related
    | .avc => avcTblGet heap related
    | .inst => sd.instTblGet heap instanceId related
  if instanceId ≠ omciMeOmci ∧ instanceId ≠ omciMeManagedEntity ∧
      instanceId &&& 0x0fff ≠ omciMeAttribute then
    match sd.table.classEntryFind instanceId with
    | none => .error .meNotSupported
    | some cls => copy (some cls)
  else copy none

/-! ## Attribute MEs -/

/-- `(me->instance_id >> 12) & 0xff`, which is below 16. -/
def relatedAttr : Attr := Fin.ofNat 16 (instanceId >>> 12 &&& 0xff).toNat

/-- The get handlers of Attribute MEs: some first look at the format of the attribute. -/
def describe {α : Type} (applies : AttrDesc → Bool) (value : MeAttr ω → AttrDesc → α) :
    Except OmciError α :=
  match sd.table.classEntryFind (instanceId &&& 0x0fff) with
  | none => .error .meNotSupported
  | some cls =>
      let attr := relatedAttr instanceId
      let desc := sd.attrDesc cls.classId attr
      if !applies desc then .error .invalidMeAttr
      else if !cls.isDefined attr then .error .meNotFound
      else .ok (value (cls.attrs attr) desc)

def nameGet : Except OmciError (List Byte) :=
  sd.describe instanceId (fun _ => true) fun _ desc => desc.name

def sizeGet : Except OmciError Nat :=
  sd.describe instanceId (fun _ => true) fun attr _ =>
    if hasProp attr.prop AttrProp.table then 0 else attr.size

/-- It sets bits of the data that it is given. -/
def accessGet (data : Byte) : Except OmciError Byte :=
  sd.describe instanceId (fun _ => true) fun attr _ =>
    data ||| (if hasProp attr.prop AttrProp.rd then 1 else 0) |||
      (if hasProp attr.prop AttrProp.wr then 2 else 0) |||
      (if hasProp attr.prop AttrProp.sbc then 4 else 0)

def formatGet : Except OmciError Byte :=
  sd.describe instanceId (fun _ => true) fun _ desc => desc.format.code

/-- `memcpy` of four bytes from a number of eight. -/
def firstWord (limit : BitVec 64) : BitVec 32 :=
  match sd.order with
  | .little => limit.extractLsb' 0 32
  | .big => limit.extractLsb' 32 32

def lowerLimitGet : Except OmciError (BitVec 32) :=
  sd.describe instanceId (·.format.isNumeric) fun _ desc => sd.firstWord desc.lowerLimit

def upperLimitGet : Except OmciError (BitVec 32) :=
  sd.describe instanceId (·.format.isNumeric) fun _ desc => sd.firstWord desc.upperLimit

def bitFieldGet : Except OmciError (BitVec 32) :=
  sd.describe instanceId (·.format == .bf) fun _ desc => desc.bitField

def supportGet : Except OmciError Byte :=
  sd.describe instanceId (fun _ => true) fun _ desc => desc.support

/-- `me_tbl_copy` of Attribute MEs, for the table of code points. -/
def codePointTblCopy : Except OmciError TblOut :=
  match sd.table.classEntryFind (instanceId &&& 0x0fff) with
  | none => .error .meNotSupported
  | some cls =>
      let desc := sd.attrDesc cls.classId (relatedAttr instanceId)
      if desc.codePoints = [] ∨ desc.format ≠ .enum then .error .invalidMeAttr
      else heap.fill (2 * desc.codePoints.length) (desc.codePoints.map hton16)

end SelfDesc

/-! ## What they should say -/

def MeClass.definedAttrs (cls : MeClass ω) : List Attr := (List.finRange 16).filter cls.isDefined

def Heap.Grants (heap : Heap) : Prop := ∀ size, (heap.memAlloc size).isSome

/-- The code points of the access to an attribute. -/
def accessCode (prop : AttrProp) : Byte :=
  .ofNat 8 ((hasProp prop AttrProp.rd).toNat + 2 * (hasProp prop AttrProp.wr).toNat +
    4 * (hasProp prop AttrProp.sbc).toNat)

namespace SelfDesc

variable (sd : SelfDesc ω)

/-- The table reads out as these bytes, where there is memory. -/
def Reads (instanceId : InstanceId) (table : Table) (bytes : List Byte) : Prop :=
  ∀ heap : Heap, heap.Grants → ∃ copy, sd.meTblCopy heap instanceId table = .ok copy ∧
    copy.data.getD [] = bytes ∧ copy.dataSize = bytes.length

/-- The instances of a class in the MIB. -/
def instances (classId : ClassId) : List InstanceId :=
  (sd.ctx.meList classId).map MeEntry.instanceId

/-- The Attribute ME describes the attribute. Its handlers get data that is zero. -/
structure Describes (instanceId : InstanceId) (cls : MeClass ω) (attr : Attr) : Prop where
  name : sd.nameGet instanceId = .ok (sd.attrDesc cls.classId attr).name
  size : sd.sizeGet instanceId =
    .ok (if hasProp (cls.attrs attr).prop AttrProp.table then 0 else (cls.attrs attr).size)
  access : sd.accessGet instanceId 0 = .ok (accessCode (cls.attrs attr).prop)
  format : sd.formatGet instanceId = .ok (sd.attrDesc cls.classId attr).format.code
  lowerLimit : sd.lowerLimitGet instanceId =
    if (sd.attrDesc cls.classId attr).format.isNumeric
    then .ok ((sd.attrDesc cls.classId attr).lowerLimit.setWidth 32) else .error .invalidMeAttr
  upperLimit : sd.upperLimitGet instanceId =
    if (sd.attrDesc cls.classId attr).format.isNumeric
    then .ok ((sd.attrDesc cls.classId attr).upperLimit.setWidth 32) else .error .invalidMeAttr
  bitField : sd.bitFieldGet instanceId =
    if (sd.attrDesc cls.classId attr).format = .bf
    then .ok (sd.attrDesc cls.classId attr).bitField else .error .invalidMeAttr
  codePoints : ∀ heap : Heap, heap.Grants →
    if (sd.attrDesc cls.classId attr).codePoints = [] ∨
        (sd.attrDesc cls.classId attr).format ≠ .enum
    then sd.codePointTblCopy heap instanceId = .error .invalidMeAttr
    else ∃ copy, sd.codePointTblCopy heap instanceId = .ok copy ∧
      copy.data.getD [] = (sd.attrDesc cls.classId attr).codePoints.flatMap hton16 ∧
      copy.dataSize = ((sd.attrDesc cls.classId attr).codePoints.flatMap hton16).length
  support : sd.supportGet instanceId = .ok (sd.attrDesc cls.classId attr).support

/-- The self-description agrees with the classes and with the MIB. -/
structure Agrees : Prop where
  attrTable : ∀ cls ∈ sd.table.classes, sd.Reads cls.classId .attr
    ((cls.definedAttrs.map fun attr : Attr => attributeMeId cls.classId attr).flatMap hton16)
  avcTable : ∀ cls ∈ sd.table.classes, sd.Reads cls.classId .avc
    (((List.finRange 16).filter cls.isAvc).map fun attr : Attr => .ofNat 8 (attr + 1))
  instTable : ∀ cls ∈ sd.table.classes, ∃ ids : List InstanceId, ids.Perm (sd.instances cls.classId) ∧
    sd.Reads cls.classId .inst (ids.flatMap hton16)
  distinct : ∀ cls ∈ sd.table.classes, ∀ cls' ∈ sd.table.classes,
    ∀ attr ∈ cls.definedAttrs, ∀ attr' ∈ cls'.definedAttrs,
    attributeMeId cls.classId attr = attributeMeId cls'.classId attr' → cls = cls' ∧ attr = attr'
  described : ∀ cls ∈ sd.table.classes, ∀ attr ∈ cls.definedAttrs,
    sd.Describes (attributeMeId cls.classId attr) cls attr
  within : ∀ heap instanceId copy,
    (∀ table, sd.meTblCopy heap instanceId table = .ok copy → copy.beyond = false) ∧
      (sd.codePointTblCopy heap instanceId = .ok copy → copy.beyond = false)

/-- `me_tbl_copy` does not look up these classes. -/
def Special (classId : ClassId) : Prop :=
  classId = omciMeOmci ∨ classId = omciMeManagedEntity ∨ classId &&& 0x0fff = omciMeAttribute

/-- When it agrees. -/
structure Describable : Prop where
  special : ∀ cls ∈ sd.table.classes, Special cls.classId → cls.definedAttrs = []
  leading : ∀ cls ∈ sd.table.classes, ∀ attr attr', attr < attr' →
    cls.isDefined attr' = true → cls.isDefined attr = true
  plural : ∀ cls ∈ sd.table.classes, cls.definedAttrs.length ≠ 1
  numbered : ∀ cls ∈ sd.table.classes, cls.definedAttrs ≠ [] → cls.classId < 4096
  limits : sd.order = .big → ∀ cls ∈ sd.table.classes, ∀ attr ∈ cls.definedAttrs,
    (sd.attrDesc cls.classId attr).format.isNumeric = true →
    ∀ limit ∈ [(sd.attrDesc cls.classId attr).lowerLimit, (sd.attrDesc cls.classId attr).upperLimit],
      limit.extractLsb' 32 32 = limit.extractLsb' 0 32
  omci : omciMeOmci ∈ sd.table.ids → ∀ id, id ∈ sd.instances omciMeOmci ↔ id = 0
  managedEntity : omciMeManagedEntity ∈ sd.table.ids →
    ∀ id, id ∈ sd.instances omciMeManagedEntity ↔ id ∈ sd.table.ids
  /-- Classes that are taken for that of Attribute MEs. -/
  attributeMes : ∀ classId ∈ sd.table.ids, classId &&& 0x0fff = omciMeAttribute →
    (∀ me ∈ sd.table.entities sd.ctx, ∀ me' ∈ sd.table.entities sd.ctx,
      me.1.definedAttrs ≠ [] → me.1 = me'.1 → me = me') ∧
    ∀ id, id ∈ sd.instances classId ↔ ∃ me ∈ sd.table.entities sd.ctx,
      ∃ attr ∈ me.1.definedAttrs, attributeMeId me.1.classId attr = id

end SelfDesc

/-! ## Instance ids of Attribute MEs -/

theorem getElem_lowBits {j : Nat} (hj : j < 16) : (0x0fff#16)[j] = decide (j < 12) := by
  rw [← BitVec.getLsbD_eq_getElem]
  exact (by decide : ∀ k : Fin 16, (0x0fff#16).getLsbD k = decide (k.val < 12)) ⟨j, hj⟩

theorem attributeMeId_and (classId : ClassId) (i : Nat) :
    attributeMeId classId i &&& 0x0fff = classId &&& 0x0fff := by
  ext j hj
  by_cases hlow : j < 12 <;> simp [attributeMeId, getElem_lowBits hj, hlow]

theorem and_eq_self_iff {classId : ClassId} : classId &&& 0x0fff = classId ↔ classId < 4096 := by
  have hmask : (classId &&& 0x0fff).toNat = classId.toNat % 2 ^ 12 := by
    rw [BitVec.toNat_and]
    exact Nat.and_two_pow_sub_one_eq_mod _ 12
  rw [← BitVec.toNat_inj, hmask, BitVec.lt_def]
  exact Nat.mod_eq_iff_lt (by decide)

theorem relatedAttr_attributeMeId {classId : ClassId} (hclass : classId < 4096) (attr : Attr) :
    SelfDesc.relatedAttr (attributeMeId classId attr) = attr := by
  have hzero : classId >>> 12 = 0#16 := by
    apply BitVec.eq_of_toNat_eq
    rw [BitVec.toNat_ushiftRight, Nat.shiftRight_eq_div_pow]
    exact Nat.div_eq_of_lt (BitVec.lt_def.mp hclass)
  have hattr : ∀ attr : Attr,
      Fin.ofNat 16 (BitVec.ofNat 16 attr <<< 12 >>> 12 &&& 0xff).toNat = attr := by decide
  rw [SelfDesc.relatedAttr, attributeMeId, BitVec.ushiftRight_or_distrib, hzero,
    BitVec.or_zero]
  exact hattr attr

theorem attributeMeId_relatedAttr (instanceId : InstanceId) :
    attributeMeId (instanceId &&& 0x0fff) (SelfDesc.relatedAttr instanceId) = instanceId := by
  have hshift : (instanceId >>> 12).toNat < 16 := by
    rw [BitVec.toNat_ushiftRight, Nat.shiftRight_eq_div_pow]
    exact Nat.div_lt_of_lt_mul instanceId.isLt
  have hattr : (SelfDesc.relatedAttr instanceId).val = (instanceId >>> 12).toNat := by
    rw [SelfDesc.relatedAttr, BitVec.toNat_and]
    exact (congrArg (· % 16) (Nat.and_two_pow_sub_one_eq_mod _ 8)).trans (by omega)
  ext j hj
  rw [hattr, attributeMeId, BitVec.ofNat_toNat, BitVec.setWidth_eq]
  by_cases hlow : j < 12
  · simp [getElem_lowBits hj, hlow]
  · simp [getElem_lowBits hj, hlow, Nat.add_sub_of_le (Nat.le_of_not_lt hlow),
      BitVec.getLsbD_eq_getElem hj]

/-! ## Reading the tables -/

/-- With memory a table has these bytes, and nothing is ever written beyond its data. -/
structure Heap.Fills (heap : Heap) (result : Except OmciError TblOut) (bytes : List Byte) :
    Prop where
  granted : heap.Grants → ∃ copy, result = .ok copy ∧
    copy.data.getD [] = bytes ∧ copy.dataSize = bytes.length
  within : ∀ copy, result = .ok copy → copy.beyond = false

section Fills

variable {heap : Heap} {cls : MeClass ω}

theorem Heap.fills_empty : heap.Fills (.ok .empty) [] where
  granted _ := ⟨.empty, rfl, rfl, rfl⟩
  within _ hcopy := Except.ok.inj hcopy ▸ rfl

/-- Both walks see the same elements. -/
theorem Heap.fills_fill {width size : Nat} {elements : List (List Byte)}
    (hwidth : ∀ element ∈ elements, element.length = width)
    (hsize : size = elements.length * width) :
    heap.Fills (heap.fill size elements) elements.flatten := by
  cases halloc : heap.memAlloc size with
  | none =>
      have hfill : heap.fill size elements = .error .memory := by rw [Heap.fill, halloc]
      rw [hfill]
      exact
        { granted := fun hgrants => absurd (hgrants size) (by rw [halloc]; exact nofun)
          within := fun _ hcopy => nomatch hcopy }
  | some data =>
      have hfill : heap.fill size elements = .ok ⟨some elements.flatten, size, false⟩ := by
        rw [Heap.fill, halloc]
        dsimp only
        rw [foldl_push hwidth (hsize ▸ heap.length size data halloc)]
      rw [hfill]
      exact
        { granted := fun _ =>
            ⟨_, rfl, rfl, hsize.trans (length_flatten_of_width hwidth).symm⟩
          within := fun _ hcopy => Except.ok.inj hcopy ▸ rfl }

theorem Heap.fills_hton16 {α : Type*} {size : Nat} (xs : List α) (f : α → BitVec 16)
    (hsize : size = xs.length * 2) :
    heap.Fills (heap.fill size (xs.map fun x => hton16 (f x))) ((xs.map f).flatMap hton16) := by
  have hwidth : ∀ element ∈ xs.map fun x => hton16 (f x), element.length = 2 :=
    List.forall_mem_map.mpr fun _ _ => rfl
  rw [List.flatMap_def, List.map_map]
  exact Heap.fills_fill hwidth (by rw [hsize, List.length_map])

def MeClass.leadingAttrs (cls : MeClass ω) : List Attr := (List.finRange 16).takeWhile cls.isDefined

theorem MeClass.attrCount_of_range {attrs : List Attr} {start count : Nat}
    (hattrs : attrs.map Fin.val = List.range' start attrs.length) :
    cls.attrCount attrs count =
      if attrs.takeWhile cls.isDefined = [] then count
      else start + (attrs.takeWhile cls.isDefined).length - 1 := by
  induction attrs generalizing start count with
  | nil => rfl
  | cons attr attrs ih =>
      rw [List.map_cons, List.length_cons, List.range'_succ] at hattrs
      injection hattrs with hattr hattrs
      by_cases hdefined : cls.isDefined attr = true
      · rw [MeClass.attrCount, if_pos hdefined, ih hattrs, hattr,
          List.takeWhile_cons_of_pos hdefined, if_neg (List.cons_ne_nil _ _), List.length_cons]
        split
        · rename_i hnil
          rw [hnil]
          rfl
        · omega
      · rw [MeClass.attrCount, if_neg hdefined, List.takeWhile_cons_of_neg hdefined, if_pos rfl]

theorem MeClass.attrCount_eq : cls.attrCount (List.finRange 16) 0 = cls.leadingAttrs.length - 1 := by
  have hattrs : (List.finRange 16).map Fin.val = List.range' 0 (List.finRange 16).length := by
    decide
  rw [MeClass.attrCount_of_range hattrs]
  split
  · rename_i hnil
    rw [MeClass.leadingAttrs, hnil]
    rfl
  · rw [MeClass.leadingAttrs, Nat.zero_add]

theorem MeClass.leadingAttrs_val :
    cls.leadingAttrs.map Fin.val = List.range cls.leadingAttrs.length := by
  have htake := List.prefix_iff_eq_take.mp
    (List.takeWhile_prefix cls.isDefined (l := List.finRange 16))
  have hlength : cls.leadingAttrs.length ≤ 16 := by
    have hle := (List.takeWhile_prefix cls.isDefined (l := List.finRange 16)).length_le
    rwa [List.length_finRange] at hle
  have hvals : (List.finRange 16).map Fin.val = List.range 16 := by decide
  rw [MeClass.leadingAttrs] at *
  rw [htake, List.map_take, hvals, List.take_range, List.length_take, List.length_finRange]

/-- The attributes of which `attr_tbl_get` gives the Attribute MEs. -/
def MeClass.readAttrs : Option (MeClass ω) → List Attr
  | none => []
  | some cls => if cls.leadingAttrs.length ≤ 1 then [] else cls.leadingAttrs

theorem fills_attrTblGet_some : heap.Fills (attrTblGet heap (some cls))
    (((MeClass.readAttrs (some cls)).map fun attr : Attr => attributeMeId cls.classId attr).flatMap
      hton16) := by
  rw [attrTblGet, MeClass.attrCount_eq, MeClass.readAttrs]
  by_cases hfew : cls.leadingAttrs.length ≤ 1
  · rw [if_pos hfew, if_pos (Nat.sub_eq_zero_of_le hfew)]
    exact Heap.fills_empty
  · have hcount : cls.leadingAttrs.length - 1 + 1 = cls.leadingAttrs.length :=
      Nat.sub_add_cancel (Nat.le_of_not_le hfew)
    rw [if_neg hfew, if_neg (by omega), hcount, ← MeClass.leadingAttrs_val, List.map_map]
    exact Heap.fills_hton16 cls.leadingAttrs (fun attr : Attr => attributeMeId cls.classId attr) rfl

def MeClass.readAvcs : Option (MeClass ω) → List Byte
  | none => []
  | some cls => ((List.finRange 16).filter cls.isAvc).map fun attr : Attr => .ofNat 8 (attr + 1)

theorem fills_singletons {α : Type*} (xs : List α) (f : α → Byte) :
    heap.Fills (heap.fill xs.length (xs.map fun x => [f x])) (xs.map f) := by
  have hwidth : ∀ element ∈ xs.map fun x => [f x], element.length = 1 :=
    List.forall_mem_map.mpr fun _ _ => rfl
  rw [List.map_eq_flatMap (f := f), List.flatMap_def]
  exact Heap.fills_fill hwidth (by rw [List.length_map, Nat.mul_one])

theorem fills_avcTblGet (related : Option (MeClass ω)) :
    heap.Fills (avcTblGet heap related) (MeClass.readAvcs related) := by
  cases related with
  | none => exact Heap.fills_empty
  | some cls =>
      rw [avcTblGet, MeClass.readAvcs, List.countP_eq_length_filter]
      split
      · rename_i hnone
        rw [List.length_eq_zero_iff.mp hnone]
        exact Heap.fills_empty
      · exact fills_singletons _ fun attr : Attr => BitVec.ofNat 8 (attr + 1)

end Fills

namespace SelfDesc

variable {sd : SelfDesc ω} {heap : Heap} {cls : MeClass ω} {instanceId : InstanceId}

theorem fills_alarmTblGet (related : Option (MeClass ω)) :
    ∃ bytes, heap.Fills (sd.alarmTblGet heap related) bytes := by
  cases related with
  | none => exact ⟨[], Heap.fills_empty⟩
  | some cls =>
      rw [alarmTblGet]
      split
      · exact ⟨[], Heap.fills_empty⟩
      · exact ⟨_, fills_singletons _ fun alarm => alarm⟩

variable (sd) in
/-- The instance ids that `inst_tbl_get` gives. -/
def readInstances (instanceId : InstanceId) (related : Option (MeClass ω)) : List InstanceId :=
  if instanceId = omciMeOmci then [0]
  else if instanceId = omciMeManagedEntity then sd.table.sorted.map MeClass.classId
  else if instanceId &&& 0x0fff = omciMeAttribute then
    (sd.table.entities sd.ctx).flatMap fun me =>
      me.1.definedAttrs.map fun attr : Attr => attributeMeId me.1.classId attr
  else related.elim [] fun cls => sd.instances cls.classId

theorem fills_instTblGet {related : Option (MeClass ω)}
    (hrelated : related = none → Special instanceId) :
    heap.Fills (sd.instTblGet heap instanceId related)
      ((sd.readInstances instanceId related).flatMap hton16) := by
  unfold instTblGet readInstances
  by_cases homci : instanceId = omciMeOmci
  · rw [if_pos homci, if_pos homci]
    exact Heap.fills_hton16 [(0 : BitVec 16)] id rfl
  rw [if_neg homci, if_neg homci]
  by_cases hentity : instanceId = omciMeManagedEntity
  · rw [if_pos hentity, if_pos hentity]
    exact Heap.fills_hton16 sd.table.sorted MeClass.classId rfl
  rw [if_neg hentity, if_neg hentity]
  by_cases hattribute : instanceId &&& 0x0fff = omciMeAttribute
  · rw [if_pos hattribute, if_pos hattribute]
    dsimp only
    have helements : ((sd.table.entities sd.ctx).flatMap fun me =>
        ((List.finRange 16).filter me.1.isDefined).map fun i : Attr =>
          hton16 (attributeMeId me.1.classId i)) =
        ((sd.table.entities sd.ctx).flatMap fun me =>
          me.1.definedAttrs.map fun attr : Attr => attributeMeId me.1.classId attr).map hton16 := by
      rw [List.map_flatMap]
      simp only [List.map_map]
      rfl
    rw [helements]
    have hfill := fun size hsize => @Heap.fills_hton16 heap _ size
      ((sd.table.entities sd.ctx).flatMap fun me =>
        me.1.definedAttrs.map fun attr : Attr => attributeMeId me.1.classId attr) id hsize
    rw [List.map_id] at hfill
    apply hfill
    rw [List.length_flatMap]
    simp only [List.countP_eq_length_filter, List.length_map, MeClass.definedAttrs]
  rw [if_neg hattribute, if_neg hattribute]
  cases related with
  | none =>
      exact absurd (hrelated rfl) (not_or.mpr ⟨homci, not_or.mpr ⟨hentity, hattribute⟩⟩)
  | some cls =>
      dsimp only [Option.elim]
      rw [instances]
      split
      · rename_i hnone
        rw [List.length_eq_zero_iff.mp hnone]
        exact Heap.fills_empty
      · exact Heap.fills_hton16 (sd.ctx.meList cls.classId) MeEntry.instanceId rfl

/-! ### The handler -/

theorem classEntryFind_classId (hcls : cls ∈ sd.table.classes) :
    sd.table.classEntryFind cls.classId = some cls := by
  cases hfind : sd.table.classEntryFind cls.classId with
  | none =>
      rw [ClassTable.classEntryFind, List.find?_eq_none] at hfind
      exact absurd (beq_self_eq_true _) (hfind cls hcls)
  | some found =>
      obtain ⟨hfound, hid⟩ := ClassTable.classEntryFind_eq_some hfind
      rw [List.inj_on_of_nodup_map sd.table.nodup hfound hcls hid]

/-- The class that the tables of its Managed Entity ME are read from. -/
def related (cls : MeClass ω) : Option (MeClass ω) :=
  if cls.classId ≠ omciMeOmci ∧ cls.classId ≠ omciMeManagedEntity ∧
    cls.classId &&& 0x0fff ≠ omciMeAttribute then some cls else none

theorem related_cases (cls : MeClass ω) :
    related cls = some cls ∧ ¬Special cls.classId ∨ related cls = none ∧ Special cls.classId := by
  by_cases hplain : cls.classId ≠ omciMeOmci ∧ cls.classId ≠ omciMeManagedEntity ∧
      cls.classId &&& 0x0fff ≠ omciMeAttribute
  · exact .inl ⟨if_pos hplain, fun hspecial => hspecial.elim hplain.1
      fun hspecial => hspecial.elim hplain.2.1 hplain.2.2⟩
  · refine .inr ⟨if_neg hplain, ?_⟩
    by_contra hspecial
    exact hplain ⟨fun h => hspecial (.inl h), fun h => hspecial (.inr (.inl h)),
      fun h => hspecial (.inr (.inr h))⟩

theorem meTblCopy_classId (hcls : cls ∈ sd.table.classes) (table : Table) :
    sd.meTblCopy heap cls.classId table =
      match table with
      | .attr => attrTblGet heap (related cls)
      | .alarm => sd.alarmTblGet heap (related cls)
      | .avc => avcTblGet heap (related cls)
      | .inst => sd.instTblGet heap cls.classId (related cls) := by
  rw [meTblCopy, classEntryFind_classId hcls, related]
  dsimp only
  split <;> rfl

/-- Whatever the instance id is, each table is filled. -/
theorem within_meTblCopy (table : Table) {copy : TblOut}
    (hcopy : sd.meTblCopy heap instanceId table = .ok copy) : copy.beyond = false := by
  have hfills : ∀ related : Option (MeClass ω), (related = none → Special instanceId) →
      ∃ bytes, heap.Fills (match table with
        | .attr => attrTblGet heap related
        | .alarm => sd.alarmTblGet heap related
        | .avc => avcTblGet heap related
        | .inst => sd.instTblGet heap instanceId related) bytes := by
    intro related hrelated
    cases table with
    | attr =>
        cases related with
        | none => exact ⟨_, Heap.fills_empty⟩
        | some cls => exact ⟨_, fills_attrTblGet_some⟩
    | alarm => exact fills_alarmTblGet related
    | avc => exact ⟨_, fills_avcTblGet related⟩
    | inst => exact ⟨_, fills_instTblGet hrelated⟩
  rw [meTblCopy] at hcopy
  dsimp only at hcopy
  by_cases hplain : instanceId ≠ omciMeOmci ∧ instanceId ≠ omciMeManagedEntity ∧
      instanceId &&& 0x0fff ≠ omciMeAttribute
  · rw [if_pos hplain] at hcopy
    cases hfind : sd.table.classEntryFind instanceId with
    | none =>
        rw [hfind] at hcopy
        cases hcopy
    | some cls =>
        rw [hfind] at hcopy
        have ⟨_, hbytes⟩ := hfills (some cls) nofun
        exact hbytes.within copy hcopy
  · rw [if_neg hplain] at hcopy
    have hspecial : Special instanceId := by
      by_contra hspecial
      exact hplain ⟨fun h => hspecial (.inl h), fun h => hspecial (.inr (.inl h)),
        fun h => hspecial (.inr (.inr h))⟩
    have ⟨_, hbytes⟩ := hfills none fun _ => hspecial
    exact hbytes.within copy hcopy

theorem fills_codePointTblCopy {desc : AttrDesc} :
    heap.Fills (heap.fill (2 * desc.codePoints.length) (desc.codePoints.map hton16))
      (desc.codePoints.flatMap hton16) := by
  have hfill := @Heap.fills_hton16 heap _ _ desc.codePoints id (Nat.mul_comm 2 _)
  rwa [List.map_id] at hfill

theorem within_codePointTblCopy {copy : TblOut}
    (hcopy : sd.codePointTblCopy heap instanceId = .ok copy) : copy.beyond = false := by
  rw [codePointTblCopy] at hcopy
  cases hfind : sd.table.classEntryFind (instanceId &&& 0x0fff) with
  | none =>
      rw [hfind] at hcopy
      cases hcopy
  | some cls =>
      rw [hfind] at hcopy
      dsimp only at hcopy
      split at hcopy
      · cases hcopy
      · exact fills_codePointTblCopy.within copy hcopy

/-! ### What a table reads out as -/

def fullHeap : Heap where
  memAlloc size := some (List.replicate size 0)
  length _ _ hdata := Option.some.inj hdata ▸ List.length_replicate

theorem Reads.unique {table : Table} {bytes bytes' : List Byte}
    (h : sd.Reads instanceId table bytes) (h' : sd.Reads instanceId table bytes') :
    bytes = bytes' := by
  have ⟨copy, hcopy, hbytes, _⟩ := h fullHeap fun _ => rfl
  have ⟨copy', hcopy', hbytes', _⟩ := h' fullHeap fun _ => rfl
  rw [hcopy] at hcopy'
  rw [← hbytes, ← hbytes', Except.ok.inj hcopy']

theorem reads_attr (hcls : cls ∈ sd.table.classes) : sd.Reads cls.classId .attr
    (((MeClass.readAttrs (related cls)).map fun attr : Attr =>
      attributeMeId cls.classId attr).flatMap hton16) := by
  intro heap hgrants
  rw [meTblCopy_classId hcls]
  cases related_cases cls with
  | inl hplain =>
      rw [hplain.1]
      exact fills_attrTblGet_some.granted hgrants
  | inr hspecial =>
      rw [hspecial.1]
      exact Heap.fills_empty.granted hgrants

theorem reads_avc (hcls : cls ∈ sd.table.classes) :
    sd.Reads cls.classId .avc (MeClass.readAvcs (related cls)) := by
  intro heap hgrants
  rw [meTblCopy_classId hcls]
  exact (fills_avcTblGet _).granted hgrants

theorem reads_inst (hcls : cls ∈ sd.table.classes) : sd.Reads cls.classId .inst
    ((sd.readInstances cls.classId (related cls)).flatMap hton16) := by
  intro heap hgrants
  rw [meTblCopy_classId hcls]
  apply (fills_instTblGet _).granted hgrants
  intro hnone
  cases related_cases cls with
  | inl hplain => exact absurd (hplain.1.symm.trans hnone) (Option.some_ne_none _)
  | inr hspecial => exact hspecial.2

theorem flatMap_hton16_injective {xs ys : List (BitVec 16)}
    (h : xs.flatMap hton16 = ys.flatMap hton16) : xs = ys := by
  have hbytes : ∀ x : BitVec 16, x.extractLsb' 8 8 ++ x.extractLsb' 0 8 = x := fun x =>
    (BitVec.extractLsb'_append_extractLsb'_eq_extractLsb' (by decide)).trans
      BitVec.extractLsb'_eq_self
  apply flatMap_pair_injective _ h
  intro x y hhigh hlow
  calc x = x.extractLsb' 8 8 ++ x.extractLsb' 0 8 := (hbytes x).symm
    _ = y.extractLsb' 8 8 ++ y.extractLsb' 0 8 := by rw [hhigh, hlow]
    _ = y := hbytes y

/-! ### Attributes -/

theorem mem_definedAttrs {attr : Attr} : attr ∈ cls.definedAttrs ↔ cls.isDefined attr = true := by
  rw [MeClass.definedAttrs, List.mem_filter]
  exact and_iff_right (List.mem_finRange attr)

theorem leadingAttrs_eq_iff : cls.leadingAttrs = cls.definedAttrs ↔
    ∀ attr attr', attr < attr' → cls.isDefined attr' = true → cls.isDefined attr = true := by
  have hiff := takeWhile_eq_filter_iff (p := cls.isDefined) (List.pairwise_lt_finRange 16)
  exact hiff.trans ⟨fun h attr attr' => h attr (List.mem_finRange _) attr' (List.mem_finRange _),
    fun h attr _ attr' _ => h attr attr'⟩

theorem leadingAttrs_sublist (cls : MeClass ω) : cls.leadingAttrs.Sublist cls.definedAttrs := by
  have hall : cls.leadingAttrs.filter cls.isDefined = cls.leadingAttrs :=
    List.filter_eq_self.mpr fun attr hattr => List.all_eq_true.mp List.all_takeWhile attr hattr
  rw [← hall]
  exact (List.takeWhile_sublist _).filter _

/-- The walk stops at the first gap, and a single attribute is counted as none. -/
theorem readAttrs_some_iff : MeClass.readAttrs (some cls) = cls.definedAttrs ↔
    cls.leadingAttrs = cls.definedAttrs ∧ cls.definedAttrs.length ≠ 1 := by
  rw [MeClass.readAttrs]
  by_cases hfew : cls.leadingAttrs.length ≤ 1
  · rw [if_pos hfew]
    apply Iff.intro
    · intro hnil
      have hleading := leadingAttrs_sublist cls
      rw [← hnil, List.sublist_nil] at hleading
      exact ⟨hleading.trans hnil, hnil ▸ Nat.zero_ne_one⟩
    · intro ⟨heq, hone⟩
      rw [heq] at hfew
      exact (List.length_eq_zero_iff.mp (by omega)).symm
  · rw [if_neg hfew]
    exact ⟨fun heq => ⟨heq, fun hone => hfew (heq ▸ Nat.le_of_eq hone)⟩, And.left⟩

theorem reads_attr_iff (hcls : cls ∈ sd.table.classes) :
    sd.Reads cls.classId .attr ((cls.definedAttrs.map fun attr : Attr =>
      attributeMeId cls.classId attr).flatMap hton16) ↔
    (Special cls.classId → cls.definedAttrs = []) ∧
      (∀ attr attr', attr < attr' → cls.isDefined attr' = true → cls.isDefined attr = true) ∧
      cls.definedAttrs.length ≠ 1 := by
  have hlength : sd.Reads cls.classId .attr ((cls.definedAttrs.map fun attr : Attr =>
      attributeMeId cls.classId attr).flatMap hton16) →
      (MeClass.readAttrs (related cls)).length = cls.definedAttrs.length := by
    intro hreads
    have hids := congrArg List.length
      (flatMap_hton16_injective ((reads_attr hcls).unique hreads))
    rwa [List.length_map, List.length_map] at hids
  rw [← leadingAttrs_eq_iff]
  cases related_cases cls with
  | inl hplain =>
      rw [hplain.1] at hlength
      apply Iff.intro
      · intro hreads
        have heq : MeClass.readAttrs (some cls) = cls.definedAttrs := by
          have hlength := hlength hreads
          rw [MeClass.readAttrs] at hlength ⊢
          split at hlength
          · rename_i hfew
            rw [if_pos hfew]
            exact (List.length_eq_zero_iff.mp hlength.symm).symm
          · rename_i hmany
            rw [if_neg hmany]
            exact (leadingAttrs_sublist cls).eq_of_length hlength
        exact ⟨fun hspecial => absurd hspecial hplain.2, readAttrs_some_iff.mp heq⟩
      · intro hdescribable
        have hreads := reads_attr hcls
        rwa [hplain.1, readAttrs_some_iff.mpr hdescribable.2] at hreads
  | inr hspecial =>
      rw [hspecial.1] at hlength
      apply Iff.intro
      · intro hreads
        have hnil := List.length_eq_zero_iff.mp (hlength hreads).symm
        have hleading := leadingAttrs_sublist cls
        rw [hnil, List.sublist_nil] at hleading
        exact ⟨fun _ => hnil, hleading.trans hnil.symm, hnil ▸ Nat.zero_ne_one⟩
      · intro hdescribable
        have hreads := reads_attr hcls
        rwa [hspecial.1, MeClass.readAttrs, ← hdescribable.1 hspecial.2] at hreads

/-! ### Notifications -/

theorem avcs_of_definedAttrs (hnone : cls.definedAttrs = []) :
    (List.finRange 16).filter cls.isAvc = [] := by
  apply List.filter_eq_nil_iff.mpr
  intro attr _ havc
  have hdefined : cls.isDefined attr = true := by
    apply bne_iff_ne.mpr
    intro hprop
    rw [MeClass.isAvc, hprop] at havc
    exact absurd havc (by decide)
  exact absurd (mem_definedAttrs.mpr hdefined) (hnone ▸ List.not_mem_nil)

theorem reads_avcs (hcls : cls ∈ sd.table.classes)
    (hspecial : Special cls.classId → cls.definedAttrs = []) :
    sd.Reads cls.classId .avc
      (((List.finRange 16).filter cls.isAvc).map fun attr : Attr => .ofNat 8 (attr + 1)) := by
  have hreads := reads_avc hcls
  cases related_cases cls with
  | inl hplain => rwa [hplain.1] at hreads
  | inr hnone =>
      rw [avcs_of_definedAttrs (hspecial hnone.2)]
      rwa [hnone.1] at hreads

/-! ### Descriptions -/

theorem describe_attributeMeId {α : Type} (hcls : cls ∈ sd.table.classes)
    (hsmall : cls.classId < 4096) (attr : Attr) (applies : AttrDesc → Bool)
    (value : MeAttr ω → AttrDesc → α) :
    sd.describe (attributeMeId cls.classId attr) applies value =
      if !applies (sd.attrDesc cls.classId attr) then .error .invalidMeAttr
      else if !cls.isDefined attr then .error .meNotFound
      else .ok (value (cls.attrs attr) (sd.attrDesc cls.classId attr)) := by
  rw [describe, attributeMeId_and, and_eq_self_iff.mpr hsmall, classEntryFind_classId hcls]
  dsimp only
  rw [relatedAttr_attributeMeId hsmall]

/-- An Attribute ME that describes anything describes an attribute with its id. -/
theorem describe_ok {α : Type} {applies : AttrDesc → Bool} {value : MeAttr ω → AttrDesc → α}
    {v : α} (h : sd.describe instanceId applies value = .ok v) :
    ∃ cls ∈ sd.table.classes, cls.classId = instanceId &&& 0x0fff ∧
      relatedAttr instanceId ∈ cls.definedAttrs ∧
      attributeMeId cls.classId (relatedAttr instanceId) = instanceId := by
  rw [describe] at h
  cases hfind : sd.table.classEntryFind (instanceId &&& 0x0fff) with
  | none =>
      rw [hfind] at h
      cases h
  | some cls =>
      have ⟨hcls, hid⟩ := ClassTable.classEntryFind_eq_some hfind
      rw [hfind] at h
      dsimp only at h
      split at h
      · cases h
      · split at h
        · cases h
        · rename_i hdefined
          rw [Bool.not_eq_true, Bool.not_eq_false'] at hdefined
          exact ⟨cls, hcls, hid, mem_definedAttrs.mpr hdefined,
            hid ▸ attributeMeId_relatedAttr instanceId⟩

theorem access_eq_accessCode (prop : AttrProp) :
    (0 ||| (if hasProp prop AttrProp.rd then 1 else 0) |||
      (if hasProp prop AttrProp.wr then 2 else 0) |||
      (if hasProp prop AttrProp.sbc then 4 else 0) : Byte) = accessCode prop := by
  rw [accessCode]
  cases hasProp prop AttrProp.rd <;> cases hasProp prop AttrProp.wr <;>
    cases hasProp prop AttrProp.sbc <;> rfl

theorem describes_iff (hcls : cls ∈ sd.table.classes) (hsmall : cls.classId < 4096)
    {attr : Attr} (hattr : attr ∈ cls.definedAttrs) :
    sd.Describes (attributeMeId cls.classId attr) cls attr ↔
      (sd.order = .big → (sd.attrDesc cls.classId attr).format.isNumeric = true →
        ∀ limit ∈ [(sd.attrDesc cls.classId attr).lowerLimit,
          (sd.attrDesc cls.classId attr).upperLimit],
          limit.extractLsb' 32 32 = limit.extractLsb' 0 32) := by
  have hdefined : (!cls.isDefined attr) = false := by
    rw [mem_definedAttrs.mp hattr]
    rfl
  have hread : ∀ {α : Type} (applies : AttrDesc → Bool) (value : MeAttr ω → AttrDesc → α),
      sd.describe (attributeMeId cls.classId attr) applies value =
        if applies (sd.attrDesc cls.classId attr)
        then .ok (value (cls.attrs attr) (sd.attrDesc cls.classId attr))
        else .error .invalidMeAttr := by
    intro α applies value
    rw [describe_attributeMeId hcls hsmall, hdefined]
    cases applies (sd.attrDesc cls.classId attr) <;> rfl
  have hlimit : ∀ limit : BitVec 64, limit.setWidth 32 = limit.extractLsb' 0 32 := fun limit =>
    (BitVec.setWidth_eq_extractLsb' (by decide))
  apply Iff.intro
  · intro hdescribes horder hnumeric
    have hlower := hdescribes.lowerLimit
    have hupper := hdescribes.upperLimit
    rw [lowerLimitGet, hread, if_pos hnumeric, if_pos hnumeric, firstWord, horder, hlimit] at hlower
    rw [upperLimitGet, hread, if_pos hnumeric, if_pos hnumeric, firstWord, horder, hlimit] at hupper
    exact List.forall_mem_cons.mpr ⟨Except.ok.inj hlower,
      List.forall_mem_singleton.mpr (Except.ok.inj hupper)⟩
  · intro hlimits
    have hfirst : (sd.attrDesc cls.classId attr).format.isNumeric = true →
        ∀ limit ∈ [(sd.attrDesc cls.classId attr).lowerLimit,
          (sd.attrDesc cls.classId attr).upperLimit], sd.firstWord limit = limit.setWidth 32 := by
      intro hnumeric limit hmem
      rw [firstWord, hlimit]
      cases horder : sd.order with
      | little => rfl
      | big => exact hlimits horder hnumeric limit hmem
    exact
      { name := hread _ _
        size := hread _ _
        access := (hread _ _).trans (congrArg Except.ok (access_eq_accessCode _))
        format := hread _ _
        lowerLimit := by
          rw [lowerLimitGet, hread]
          split
          · rename_i hnumeric
            rw [hfirst hnumeric _ List.mem_cons_self]
          · rfl
        upperLimit := by
          rw [upperLimitGet, hread]
          split
          · rename_i hnumeric
            rw [hfirst hnumeric _ (List.mem_cons_of_mem _ List.mem_cons_self)]
          · rfl
        bitField := by
          rw [bitFieldGet, hread]
          simp only [beq_iff_eq]
        codePoints := fun heap hgrants => by
          rw [codePointTblCopy, attributeMeId_and, and_eq_self_iff.mpr hsmall,
            classEntryFind_classId hcls]
          dsimp only
          rw [relatedAttr_attributeMeId hsmall]
          split
          · rfl
          · exact fills_codePointTblCopy.granted hgrants
        support := hread _ _ }

/-! ### Numbers -/

theorem numbered_of_agrees (hagrees : sd.Agrees) (hcls : cls ∈ sd.table.classes) {attr : Attr}
    (hattr : attr ∈ cls.definedAttrs) : cls.classId < 4096 := by
  have ⟨found, hfound, hid, hrelated, hsame⟩ := describe_ok (hagrees.described cls hcls attr hattr).name
  have ⟨heq, _⟩ := hagrees.distinct found hfound cls hcls _ hrelated attr hattr hsame
  rw [heq, attributeMeId_and] at hid
  exact and_eq_self_iff.mp hid.symm

theorem distinct_of_numbered
    (hnumbered : ∀ cls ∈ sd.table.classes, cls.definedAttrs ≠ [] → cls.classId < 4096)
    {cls' : MeClass ω} (hcls : cls ∈ sd.table.classes) (hcls' : cls' ∈ sd.table.classes)
    {attr attr' : Attr} (hattr : attr ∈ cls.definedAttrs) (hattr' : attr' ∈ cls'.definedAttrs)
    (hid : attributeMeId cls.classId attr = attributeMeId cls'.classId attr') :
    cls = cls' ∧ attr = attr' := by
  have hsmall := hnumbered cls hcls (List.ne_nil_of_mem hattr)
  have hsmall' := hnumbered cls' hcls' (List.ne_nil_of_mem hattr')
  have hclass : cls.classId = cls'.classId :=
    calc cls.classId = attributeMeId cls.classId attr &&& 0x0fff := by
          rw [attributeMeId_and, and_eq_self_iff.mpr hsmall]
      _ = attributeMeId cls'.classId attr' &&& 0x0fff := by rw [hid]
      _ = cls'.classId := by rw [attributeMeId_and, and_eq_self_iff.mpr hsmall']
  have hrelated := congrArg relatedAttr hid
  rw [relatedAttr_attributeMeId hsmall, relatedAttr_attributeMeId hsmall'] at hrelated
  exact ⟨List.inj_on_of_nodup_map sd.table.nodup hcls hcls' hclass, hrelated⟩

/-! ### Instances -/

theorem nodup_instances (classId : ClassId) : (sd.instances classId).Nodup := by
  apply (sd.wellFormed.ascending classId).nodup.map_on
  intro entry hentry entry' hentry' hid
  exact (sd.wellFormed.ascending classId).eq_of_key_eq hentry hentry'
    (congrArg BitVec.toNat hid)

theorem perm_instances_iff {ids : List InstanceId} {classId : ClassId} :
    ids.Perm (sd.instances classId) ↔
      ids.Nodup ∧ ∀ id, id ∈ sd.instances classId ↔ id ∈ ids := by
  apply Iff.intro
  · exact fun hperm => ⟨hperm.nodup_iff.mpr (nodup_instances classId), fun _ => hperm.mem_iff.symm⟩
  · exact fun h => (List.perm_ext_iff_of_nodup h.1 (nodup_instances classId)).mpr fun id =>
      (h.2 id).symm

theorem reads_inst_iff (hcls : cls ∈ sd.table.classes) :
    (∃ ids : List InstanceId, ids.Perm (sd.instances cls.classId) ∧
      sd.Reads cls.classId .inst (ids.flatMap hton16)) ↔
    (sd.readInstances cls.classId (related cls)).Perm (sd.instances cls.classId) := by
  apply Iff.intro
  · intro ⟨ids, hperm, hreads⟩
    rwa [flatMap_hton16_injective ((reads_inst hcls).unique hreads)]
  · exact fun hperm => ⟨_, hperm, reads_inst hcls⟩

theorem nodup_sortedIds : (sd.table.sorted.map MeClass.classId).Nodup := by
  have hperm : (sd.table.sorted.map MeClass.classId).Perm sd.table.ids :=
    (List.perm_insertionSort _ _).map _
  exact hperm.nodup_iff.mpr sd.table.nodup

theorem mem_sortedIds {id : ClassId} :
    id ∈ sd.table.sorted.map MeClass.classId ↔ id ∈ sd.table.ids := by
  simp only [List.mem_map, ClassTable.mem_sorted, ClassTable.ids]

/-- The list of Attribute MEs has each once if no ME shares its class with another. -/
theorem nodup_attributeMes
    (hnumbered : ∀ cls ∈ sd.table.classes, cls.definedAttrs ≠ [] → cls.classId < 4096) :
    ((sd.table.entities sd.ctx).flatMap fun me =>
      me.1.definedAttrs.map fun attr : Attr => attributeMeId me.1.classId attr).Nodup ↔
    ∀ me ∈ sd.table.entities sd.ctx, ∀ me' ∈ sd.table.entities sd.ctx,
      me.1.definedAttrs ≠ [] → me.1 = me'.1 → me = me' := by
  rw [List.nodup_flatMap]
  apply Iff.intro
  · intro ⟨_, hdisjoint⟩ me hme me' hme' hsome hclass
    by_contra hne
    have ⟨attr, hattr⟩ := List.exists_mem_of_ne_nil _ hsome
    have hsymm : Std.Symm (Function.onFun List.Disjoint fun me : MeClass ω × MeEntry =>
        me.1.definedAttrs.map fun attr : Attr => attributeMeId me.1.classId attr) :=
      ⟨fun _ _ hdisjoint => hdisjoint.symm⟩
    have hid := List.mem_map_of_mem (f := fun attr : Attr => attributeMeId me.1.classId attr) hattr
    have hid' : attributeMeId me.1.classId attr ∈
        me'.1.definedAttrs.map fun attr : Attr => attributeMeId me'.1.classId attr := hclass ▸ hid
    exact hdisjoint.forall hme hme' hne hid hid'
  · intro hsingle
    apply And.intro
    · intro me hme
      have hcls := (ClassTable.mem_entities.mp hme).1
      apply ((List.nodup_finRange 16).filter me.1.isDefined).map_on
      intro attr hattr attr' hattr' hid
      exact (distinct_of_numbered hnumbered hcls hcls hattr hattr' hid).2
    · apply (List.Nodup.of_map _ sd.wellFormed.nodup_keys).pairwise_of_forall_ne
      intro me hme me' hme' hne id hid hid'
      have ⟨attr, hattr, hid⟩ := List.mem_map.mp hid
      have ⟨attr', hattr', hid'⟩ := List.mem_map.mp hid'
      have ⟨hclass, _⟩ := distinct_of_numbered hnumbered (ClassTable.mem_entities.mp hme).1
        (ClassTable.mem_entities.mp hme').1 hattr hattr' (hid.trans hid'.symm)
      exact hne (hsingle me hme me' hme' (List.ne_nil_of_mem hattr) hclass)

theorem mem_attributeMes {id : InstanceId} :
    id ∈ ((sd.table.entities sd.ctx).flatMap fun me =>
      me.1.definedAttrs.map fun attr : Attr => attributeMeId me.1.classId attr) ↔
    ∃ me ∈ sd.table.entities sd.ctx, ∃ attr ∈ me.1.definedAttrs,
      attributeMeId me.1.classId attr = id := by
  simp only [List.mem_flatMap, List.mem_map]

/-- The table of instances of a class is right, branch by branch. -/
theorem perm_readInstances_iff
    (hnumbered : ∀ cls ∈ sd.table.classes, cls.definedAttrs ≠ [] → cls.classId < 4096) :
    (sd.readInstances cls.classId (related cls)).Perm (sd.instances cls.classId) ↔
      (cls.classId = omciMeOmci → ∀ id, id ∈ sd.instances cls.classId ↔ id = 0) ∧
      (cls.classId = omciMeManagedEntity →
        ∀ id, id ∈ sd.instances cls.classId ↔ id ∈ sd.table.ids) ∧
      (cls.classId &&& 0x0fff = omciMeAttribute →
        (∀ me ∈ sd.table.entities sd.ctx, ∀ me' ∈ sd.table.entities sd.ctx,
          me.1.definedAttrs ≠ [] → me.1 = me'.1 → me = me') ∧
        ∀ id, id ∈ sd.instances cls.classId ↔ ∃ me ∈ sd.table.entities sd.ctx,
          ∃ attr ∈ me.1.definedAttrs, attributeMeId me.1.classId attr = id) := by
  by_cases homci : cls.classId = omciMeOmci
  · have hentity : cls.classId ≠ omciMeManagedEntity := homci ▸ by decide
    have hattribute : cls.classId &&& 0x0fff ≠ omciMeAttribute := homci ▸ by decide
    rw [readInstances, if_pos homci, perm_instances_iff]
    exact ⟨fun h => ⟨fun _ id => (h.2 id).trans List.mem_singleton, fun h => absurd h hentity,
        fun h => absurd h hattribute⟩,
      fun h => ⟨List.nodup_singleton _, fun id => (h.1 homci id).trans List.mem_singleton.symm⟩⟩
  by_cases hentity : cls.classId = omciMeManagedEntity
  · have hattribute : cls.classId &&& 0x0fff ≠ omciMeAttribute := hentity ▸ by decide
    rw [readInstances, if_neg homci, if_pos hentity, perm_instances_iff]
    exact ⟨fun h => ⟨fun h => absurd h homci, fun _ id => (h.2 id).trans mem_sortedIds,
        fun h => absurd h hattribute⟩,
      fun h => ⟨nodup_sortedIds, fun id => (h.2.1 hentity id).trans mem_sortedIds.symm⟩⟩
  by_cases hattribute : cls.classId &&& 0x0fff = omciMeAttribute
  · rw [readInstances, if_neg homci, if_neg hentity, if_pos hattribute, perm_instances_iff,
      nodup_attributeMes hnumbered]
    exact ⟨fun h => ⟨fun h => absurd h homci, fun h => absurd h hentity,
        fun _ => ⟨h.1, fun id => (h.2 id).trans mem_attributeMes⟩⟩,
      fun h => ⟨(h.2.2 hattribute).1, fun id =>
        ((h.2.2 hattribute).2 id).trans mem_attributeMes.symm⟩⟩
  · rw [readInstances, if_neg homci, if_neg hentity, if_neg hattribute, related,
      if_pos ⟨homci, hentity, hattribute⟩]
    exact ⟨fun _ => ⟨fun h => absurd h homci, fun h => absurd h hentity,
        fun h => absurd h hattribute⟩,
      fun _ => .refl _⟩

/-! ## The condition -/

theorem describable_of_agrees (hagrees : sd.Agrees) : sd.Describable := by
  have hattrs := fun cls hcls => (reads_attr_iff hcls).mp (hagrees.attrTable cls hcls)
  have hnumbered : ∀ cls ∈ sd.table.classes, cls.definedAttrs ≠ [] → cls.classId < 4096 := by
    intro cls hcls hsome
    have ⟨attr, hattr⟩ := List.exists_mem_of_ne_nil _ hsome
    exact numbered_of_agrees hagrees hcls hattr
  have hinst : ∀ classId ∈ sd.table.ids, ∃ cls, cls.classId = classId ∧
      (sd.readInstances cls.classId (related cls)).Perm (sd.instances cls.classId) := by
    intro classId hid
    have ⟨cls, hcls, hclass⟩ := List.mem_map.mp hid
    exact ⟨cls, hclass, (reads_inst_iff hcls).mp (hagrees.instTable cls hcls)⟩
  exact
    { special := fun cls hcls => (hattrs cls hcls).1
      leading := fun cls hcls => (hattrs cls hcls).2.1
      plural := fun cls hcls => (hattrs cls hcls).2.2
      numbered := hnumbered
      limits := fun horder cls hcls attr hattr =>
        (describes_iff hcls (hnumbered cls hcls (List.ne_nil_of_mem hattr)) hattr).mp
          (hagrees.described cls hcls attr hattr) horder
      omci := fun hid => by
        have ⟨cls, hclass, hperm⟩ := hinst _ hid
        rw [← hclass]
        exact ((perm_readInstances_iff hnumbered).mp hperm).1 hclass
      managedEntity := fun hid => by
        have ⟨cls, hclass, hperm⟩ := hinst _ hid
        rw [← hclass]
        exact ((perm_readInstances_iff hnumbered).mp hperm).2.1 hclass
      attributeMes := fun classId hid hattribute => by
        have ⟨cls, hclass, hperm⟩ := hinst _ hid
        rw [← hclass] at hattribute ⊢
        exact ((perm_readInstances_iff hnumbered).mp hperm).2.2 hattribute }

theorem agrees_of_describable (h : sd.Describable) : sd.Agrees where
  attrTable cls hcls :=
    (reads_attr_iff hcls).mpr ⟨h.special cls hcls, h.leading cls hcls, h.plural cls hcls⟩
  avcTable cls hcls := reads_avcs hcls (h.special cls hcls)
  instTable cls hcls := by
    have hid : cls.classId ∈ sd.table.ids := List.mem_map_of_mem hcls
    rw [reads_inst_iff hcls, perm_readInstances_iff h.numbered]
    exact ⟨fun hclass => hclass ▸ h.omci (hclass ▸ hid),
      fun hclass => hclass ▸ h.managedEntity (hclass ▸ hid), h.attributeMes cls.classId hid⟩
  distinct _ hcls _ hcls' _ hattr _ hattr' := distinct_of_numbered h.numbered hcls hcls' hattr hattr'
  described cls hcls attr hattr :=
    (describes_iff hcls (h.numbered cls hcls (List.ne_nil_of_mem hattr)) hattr).mpr
      fun horder => h.limits horder cls hcls attr hattr
  within _ _ _ := ⟨fun table hcopy => within_meTblCopy table hcopy, within_codePointTblCopy⟩

/-- The self-description agrees with the classes and the MIB exactly when they are
describable. -/
theorem selfDescription_agrees_iff (sd : SelfDesc ω) : sd.Agrees ↔ sd.Describable :=
  ⟨describable_of_agrees, agrees_of_describable⟩

/-- The classes of the sample table, in a MIB with a GAL Ethernet profile. -/
def sample : SelfDesc Unit where
  table := sampleTable
  ctx := singleMe true 272 1
  wellFormed := singleMe_mibInv true 272 1
  attrDesc _ _ := ⟨[], .uint, 0, 255, 0, [], 1⟩
  alarmTable _ := []
  order := .big

/-- The only attribute of the GAL Ethernet profile is not listed; all Attribute MEs of the ONU
loop detection have one instance id; and the upper limit of the attribute reads out as 0. -/
theorem sample_not_agrees :
    ¬sample.Agrees ∧ (sample.meTblCopy fullHeap 272 .attr).toOption.map (·.dataSize) = some 0 ∧
      attributeMeId 65528 0 = attributeMeId 65528 1 ∧
      sample.upperLimitGet (attributeMeId 272 0) = .ok 0 := by
  refine ⟨fun hagrees => ?_, by rfl, by decide, by rfl⟩
  have hplural := (describable_of_agrees hagrees).plural meGalEthernetProfileClass
    List.mem_cons_self
  exact hplural (by rfl)

end SelfDesc

end FalconGpon.Omci
