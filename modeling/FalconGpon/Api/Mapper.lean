/-
# The id mapper

`omci_api_mapper.c` keeps the pairs of an OMCI id and a hardware index. Each mapper links
its pairs into two lists, one ordered by the id and one by the index, and declares the range
of either key. The lists are searched and changed at positions that a search leaves behind.

A list of pairs stands for a linked list, and the number of pairs before a position for the
pointer to the pair before it: `0` is the null pointer. Whether memory is available for a
new pair or array is the environment's answer `mem`.
-/

import FalconGpon.Lib.Ascending
import FalconGpon.Lib.Literals

namespace FalconGpon.Api

/-- `enum omci_api_return`, as far as the mapper and its users return it. -/
inductive OmciApiReturn
  | success
  | error
  | notFound
deriving DecidableEq

/-- `enum mapper_key_type`. -/
inductive MapperKeyType
  | id
  | index
deriving DecidableEq

def MapperKeyType.other : MapperKeyType → MapperKeyType
  | .id => .index
  | .index => .id

/-- `struct mapper_map_list` without its links. -/
structure MapperItem where
  id : BitVec 32
  index : BitVec 32
deriving DecidableEq

/-- `item->key[key_type]`. -/
def MapperItem.key (item : MapperItem) : MapperKeyType → BitVec 32
  | .id => item.id
  | .index => item.index

/-- The pair of a key and a key of the other type. -/
def MapperItem.pair (keyType : MapperKeyType) (key other : BitVec 32) : MapperItem :=
  match keyType with
  | .id => ⟨key, other⟩
  | .index => ⟨other, key⟩

/-- `struct mapper`. -/
structure Mapper where
  minKey : MapperKeyType → BitVec 32
  maxKey : MapperKeyType → BitVec 32
  list : MapperKeyType → List MapperItem

/-- `enum mapper_id_type`. -/
abbrev MapperIdType := Nat

namespace MapperIdType

def tcontMeidToIdx : MapperIdType := 0
/-- The first of the id types of the bridges. -/
def macbridgeportMeidToIdx : MapperIdType := 1
def macbridgeMeidToIdx : MapperIdType := 10
def macbridgeportMeidToIngressMeterIdx : MapperIdType := 11
def macbridgeportMeidToEgressMeterIdx : MapperIdType := 12
def traffshedgMeidToIdx : MapperIdType := 13
def dot1pmapperMeidToIdx : MapperIdType := 14
def dot1pmapperMeidToDscpIdx : MapperIdType := 15
def gemportctpMeidToPortid : MapperIdType := 16
def gemportctpMeidToIdx : MapperIdType := 17
def gemportctpMeidToMeterIdx : MapperIdType := 18
def mulctcastGemportitpMeidToCtpMeid : MapperIdType := 19
def pqueueMeidToIdx : MapperIdType := 20
def traffdescrToIdx : MapperIdType := 21
def traffdescrToPoliceridx : MapperIdType := 22
def pptpethuniMeidToIdx : MapperIdType := 24
def vlantfdMeidToVlangrp : MapperIdType := 25
def vlantocdMeidToVlanrulegrpDs : MapperIdType := 26
def vlantocdMeidToVlanrulegrpUs : MapperIdType := 27
def macbridgeportfptdMeidToUsexceptidx : MapperIdType := 28
def macbridgeportfptdMeidToDsexceptidx : MapperIdType := 29
def tcontToEpn : MapperIdType := 31
def portToEpn : MapperIdType := 32
def extvlancdMeidToExtvlanidxUs : MapperIdType := 35
def extvlancdMeidToExtvlanidxDs : MapperIdType := 36
def extvlancdMeidToMcExtvlanidxUs : MapperIdType := 37
def extvlancdMeidToMcExtvlanidxDs : MapperIdType := 38
def extvlancdMeidToLanIdx : MapperIdType := 39
def gemitpMeidToGpix : MapperIdType := 40
def mcopprofileMeidToIdx : MapperIdType := 42
def mcsubscrCfgInfoMeidToIdx : MapperIdType := 43
def mcsubscrCfgInfoMeidToLanIdx : MapperIdType := 44
def mcsubscrMonitorMeidToIdx : MapperIdType := 45
def pqueueMeidToTbsIdx : MapperIdType := 46
def veipMeidToIdx : MapperIdType := 47
def lctMeidToLanIdx : MapperIdType := 48
def lctMeidToMeterIdx : MapperIdType := 49
def max : MapperIdType := 51

end MapperIdType

/-- `struct mapper_entry` without the name, which only messages read. -/
structure MapperEntry where
  type : MapperIdType
  num : Nat
  minId : BitVec 32
  maxId : BitVec 32
  minIdx : BitVec 32
  maxIdx : BitVec 32

open MapperIdType in
/-- `m_entry`, for a number of bridge ports that `mapper_bridge_port_init` takes from the
capabilities. The rows for VoIP are not built. -/
def mEntry (maxBridgePort : BitVec 32) : List MapperEntry :=
  [ ⟨tcontMeidToIdx, 1, 0, 0xffffffff, 0, 31⟩,
    ⟨traffshedgMeidToIdx, 1, 0, 0xffff, 0, 127⟩,
    ⟨dot1pmapperMeidToIdx, 1, 0, 0xffff, 0, 31⟩,
    ⟨dot1pmapperMeidToDscpIdx, 1, 0, 0xffff, 0, 31⟩,
    ⟨gemportctpMeidToPortid, 1, 0, 0xffff, 0, 0xffff⟩,
    ⟨gemportctpMeidToIdx, 1, 0, 0xffff, 0, 0xffffffff⟩,
    ⟨gemportctpMeidToMeterIdx, 1, 0, 0xffff, 0, 0xffff⟩,
    ⟨mulctcastGemportitpMeidToCtpMeid, 1, 0, 0xffff, 0, 0xffff⟩,
    ⟨pqueueMeidToIdx, 1, 0, 0xffff, 0, 255⟩,
    ⟨portToEpn, 1, 0, 0xffff, 64, 67⟩,
    ⟨macbridgeportMeidToIdx, 8, 0, 0xffffffff, 0, maxBridgePort - 1⟩,
    ⟨macbridgeportMeidToIngressMeterIdx, 1, 0, 0xffffffff, 0, 0xffffffff⟩,
    ⟨macbridgeportMeidToEgressMeterIdx, 1, 0, 0xffffffff, 0, 0xffffffff⟩,
    ⟨macbridgeMeidToIdx, 1, 0, 0xffff, 0, 7⟩,
    ⟨pptpethuniMeidToIdx, 1, 0, 0xffff, 0, 8⟩,
    ⟨vlantfdMeidToVlangrp, 1, 0, 0xffff, 0, 64⟩,
    ⟨vlantocdMeidToVlanrulegrpUs, 1, 0, 0xffff, 0, 64⟩,
    ⟨vlantocdMeidToVlanrulegrpDs, 1, 0, 0xffff, 0, 64⟩,
    ⟨macbridgeportfptdMeidToUsexceptidx, 1, 0, 0xffff, 0, 63⟩,
    ⟨macbridgeportfptdMeidToDsexceptidx, 1, 0, 0xffff, 0, 63⟩,
    ⟨tcontToEpn, 1, 0, 0xffff, 0, 63⟩,
    ⟨traffdescrToIdx, 1, 0, 0xffff, 0, 32⟩,
    ⟨traffdescrToPoliceridx, 1, 0, 0xffff, 0, 32⟩,
    ⟨extvlancdMeidToExtvlanidxUs, 1, 0, 0xffff, 0, 128⟩,
    ⟨extvlancdMeidToExtvlanidxDs, 1, 0, 0xffff, 0, 128⟩,
    ⟨extvlancdMeidToMcExtvlanidxUs, 1, 0, 0xffff, 0, 128⟩,
    ⟨extvlancdMeidToMcExtvlanidxDs, 1, 0, 0xffff, 0, 128⟩,
    ⟨extvlancdMeidToLanIdx, 1, 0, 0xffff, 0, 4⟩,
    ⟨gemitpMeidToGpix, 1, 0, 0xffff, 0, 0xffff⟩,
    ⟨mcopprofileMeidToIdx, 1, 0, 0xffff, 0, 0xffff⟩,
    ⟨mcsubscrCfgInfoMeidToIdx, 1, 0, 0xffff, 0, 0xffff⟩,
    ⟨mcsubscrCfgInfoMeidToLanIdx, 1, 0, 0xffff, 0, 4⟩,
    ⟨mcsubscrMonitorMeidToIdx, 1, 0, 0xffff, 0, 0xffff⟩,
    ⟨pqueueMeidToTbsIdx, 1, 0, 0xffff, 0, 255⟩,
    ⟨veipMeidToIdx, 1, 0, 0xffff, 0, 8⟩,
    ⟨lctMeidToLanIdx, 1, 0, 0xffff, 0, 4⟩,
    ⟨lctMeidToMeterIdx, 1, 0, 0xffff, 0, 0xffff⟩ ]

/-- `ctx->mapper`: the mapper of each id type, if it was initialized. -/
abbrev Mappers := MapperIdType → Option Mapper

namespace Mapper

/-- `id_type_init`: a mapper without pairs. -/
def init (entry : MapperEntry) : Mapper where
  minKey
    | .id => entry.minId
    | .index => entry.minIdx
  maxKey
    | .id => entry.maxId
    | .index => entry.maxIdx
  list _ := []

/-- `item_find`: walk to the first key that is not smaller. `pos` counts the pairs passed. -/
def itemFind (keyType : MapperKeyType) (key : BitVec 32) :
    List MapperItem → Nat → OmciApiReturn × Nat
  | [], pos => (.notFound, pos)
  | item :: rest, pos =>
      if key < item.key keyType then (.notFound, pos)
      else if item.key keyType = key then (.success, pos)
      else itemFind keyType key rest (pos + 1)

/-- The loop of `free_key_find` behind `item`, which is the pair number `pos`. -/
def freeKeyAfter (keyType : MapperKeyType) (maxKey : BitVec 32) (item : MapperItem) :
    List MapperItem → Nat → Option (BitVec 32 × Nat)
  | [], pos =>
      if item.key keyType = maxKey then none else some (item.key keyType + 1, pos)
  | next :: rest, pos =>
      if 1 < next.key keyType - item.key keyType then some (item.key keyType + 1, pos)
      else freeKeyAfter keyType maxKey next rest (pos + 1)

/-- `free_key_find`: the lowest key that is not mapped, and where to insert it. -/
def freeKeyFind (m : Mapper) (keyType : MapperKeyType) : Option (BitVec 32 × Nat) :=
  match m.list keyType with
  | [] => some (m.minKey keyType, 0)
  | item :: rest =>
      if 0 < item.key keyType - m.minKey keyType then some (m.minKey keyType, 0)
      else freeKeyAfter keyType (m.maxKey keyType) item rest 1

/-- `item_add`: link the pair behind the position of either list. -/
def itemAdd (m : Mapper) (pos : MapperKeyType → Nat) (item : MapperItem) : Mapper :=
  { m with list := fun keyType => (m.list keyType).insertIdx (pos keyType) item }

/-- `item_remove`: unlink the pair behind the position of either list. -/
def itemRemove (m : Mapper) (pos : MapperKeyType → Nat) : Mapper :=
  { m with list := fun keyType => (m.list keyType).eraseIdx (pos keyType) }

/-- `key_verify` on the mapper. -/
def inRange (m : Mapper) (keyType : MapperKeyType) (key : BitVec 32) : Bool :=
  m.minKey keyType ≤ key && key ≤ m.maxKey keyType

end Mapper

/-- What an array read-out hands out: the size it allocated in bytes and the 32 bit values it
stored from the start of the array on. -/
structure MapperArray where
  allocated : Nat
  values : List (BitVec 32)
deriving DecidableEq

/-- The return code of a call and what it hands out. -/
structure MapperReply where
  ret : OmciApiReturn
  key : Option (BitVec 32)
  array : Option MapperArray
deriving DecidableEq

namespace MapperReply

/-- A return code alone. -/
def code (ret : OmciApiReturn) : MapperReply where
  ret := ret
  key := none
  array := none

/-- Success with a key. -/
def found (key : BitVec 32) : MapperReply where
  ret := .success
  key := some key
  array := none

end MapperReply

namespace Mappers

/-- `mapper_init`: a mapper for each id type of the table. -/
def init (maxBridgePort : BitVec 32) : Mappers := fun idType =>
  (mEntry maxBridgePort).findSome? fun entry =>
    if entry.type ≤ idType ∧ idType < entry.type + entry.num then some (Mapper.init entry)
    else none

/-- `mapper_get` after `id_type_verify`. -/
def mapperGet (mappers : Mappers) (idType : MapperIdType) : Option Mapper :=
  if idType < MapperIdType.max then mappers idType else none

/-- `key_verify`: the mapper, if there is one and the key is in its range. -/
def keyVerify (mappers : Mappers) (idType : MapperIdType) (keyType : MapperKeyType)
    (key : BitVec 32) : Option Mapper :=
  match mappers.mapperGet idType with
  | none => none
  | some m => if m.inRange keyType key then some m else none

def set (mappers : Mappers) (idType : MapperIdType) (m : Mapper) : Mappers :=
  fun other => if other = idType then some m else mappers other

/-- `explicit_map`. -/
def explicitMap (mappers : Mappers) (idType : MapperIdType) (id index : BitVec 32)
    (mem : Bool) : Mappers × MapperReply :=
  match mappers.keyVerify idType .id id, mappers.keyVerify idType .index index with
  | some m, some _ =>
      match Mapper.itemFind .id id (m.list .id) 0,
          Mapper.itemFind .index index (m.list .index) 0 with
      | (.notFound, idPos), (.notFound, indexPos) =>
          if mem then
            let pos := fun type => if type = .id then idPos else indexPos
            (mappers.set idType (m.itemAdd pos ⟨id, index⟩), .code .success)
          else (mappers, .code .error)
      | _, _ => (mappers, .code .error)
  | _, _ => (mappers, .code .error)

/-- The common body of `id_map` and `index_map`: map the key to the lowest free key of the
other type. -/
def keyMap (mappers : Mappers) (idType : MapperIdType) (keyType : MapperKeyType)
    (key : BitVec 32) (mem : Bool) : Mappers × MapperReply :=
  match mappers.keyVerify idType keyType key with
  | none => (mappers, .code .error)
  | some m =>
      match Mapper.itemFind keyType key (m.list keyType) 0 with
      | (.notFound, keyPos) =>
          match m.freeKeyFind keyType.other with
          | none => (mappers, .code .error)
          | some (free, freePos) =>
              if mem then
                let pos := fun type => if type = keyType then keyPos else freePos
                let item := MapperItem.pair keyType key free
                (mappers.set idType (m.itemAdd pos item), .found free)
              else (mappers, .code .error)
      | _ => (mappers, .code .error)

/-- `id_map`. -/
def idMap (mappers : Mappers) (idType : MapperIdType) (id : BitVec 32) (mem : Bool) :
    Mappers × MapperReply :=
  mappers.keyMap idType .id id mem

/-- `index_map`. -/
def indexMap (mappers : Mappers) (idType : MapperIdType) (index : BitVec 32) (mem : Bool) :
    Mappers × MapperReply :=
  mappers.keyMap idType .index index mem

/-- The common body of `index_get` and `id_get`: the other key of the pair that has a key. -/
def keyGet (mappers : Mappers) (idType : MapperIdType) (keyType : MapperKeyType)
    (key : BitVec 32) : MapperReply :=
  match mappers.keyVerify idType keyType key with
  | none => .code .error
  | some m =>
      match Mapper.itemFind keyType key (m.list keyType) 0 with
      | (.success, pos) =>
          match (m.list keyType)[pos]? with
          | some item => .found (item.key keyType.other)
          | none => .code .error
      | (ret, _) => .code ret

/-- `index_get`. -/
def indexGet (mappers : Mappers) (idType : MapperIdType) (id : BitVec 32) : MapperReply :=
  mappers.keyGet idType .id id

/-- `id_get`. -/
def idGet (mappers : Mappers) (idType : MapperIdType) (index : BitVec 32) : MapperReply :=
  mappers.keyGet idType .index index

/-- The common body of `index_array_get` and `id_array_get`: the array has a byte for each
pair, and every pair stores a key of four. -/
def arrayGet (mappers : Mappers) (idType : MapperIdType) (keyType : MapperKeyType)
    (mem : Bool) : MapperReply :=
  match mappers.mapperGet idType with
  | none => .code .error
  | some m =>
      if m.list keyType = [] then { MapperReply.code .success with array := some ⟨0, []⟩ }
      else if mem then
        let sz := (m.list keyType).length
        let values := (m.list keyType).map fun item => item.key keyType
        { MapperReply.code .success with array := some ⟨sz, values⟩ }
      else .code .error

/-- `index_array_get`. -/
def indexArrayGet (mappers : Mappers) (idType : MapperIdType) (mem : Bool) : MapperReply :=
  mappers.arrayGet idType .index mem

/-- `id_array_get`. -/
def idArrayGet (mappers : Mappers) (idType : MapperIdType) (mem : Bool) : MapperReply :=
  mappers.arrayGet idType .id mem

/-- The common body of `id_remove` and `index_remove`: find the pair by the given key, then
its place in the other list. -/
def keyRemove (mappers : Mappers) (idType : MapperIdType) (keyType : MapperKeyType)
    (key : BitVec 32) : Mappers × MapperReply :=
  match mappers.keyVerify idType keyType key with
  | none => (mappers, .code .error)
  | some m =>
      match Mapper.itemFind keyType key (m.list keyType) 0 with
      | (.success, keyPos) =>
          match (m.list keyType)[keyPos]? with
          | none => (mappers, .code .error)
          | some item =>
              match Mapper.itemFind keyType.other (item.key keyType.other)
                  (m.list keyType.other) 0 with
              | (.success, otherPos) =>
                  let pos := fun type => if type = keyType then keyPos else otherPos
                  (mappers.set idType (m.itemRemove pos), .code .success)
              | (ret, _) => (mappers, .code ret)
      | (ret, _) => (mappers, .code ret)

/-- `id_remove`. -/
def idRemove (mappers : Mappers) (idType : MapperIdType) (id : BitVec 32) : Mappers × MapperReply :=
  mappers.keyRemove idType .id id

/-- `index_remove`. -/
def indexRemove (mappers : Mappers) (idType : MapperIdType) (index : BitVec 32) :
    Mappers × MapperReply :=
  mappers.keyRemove idType .index index

end Mappers

/-- A call of the mapper's interface. -/
inductive MapperCall
  | explicitMap (idType : MapperIdType) (id index : BitVec 32) (mem : Bool)
  | idMap (idType : MapperIdType) (id : BitVec 32) (mem : Bool)
  | indexMap (idType : MapperIdType) (index : BitVec 32) (mem : Bool)
  | idRemove (idType : MapperIdType) (id : BitVec 32)
  | indexRemove (idType : MapperIdType) (index : BitVec 32)
  | idArrayGet (idType : MapperIdType) (mem : Bool)
  | indexArrayGet (idType : MapperIdType) (mem : Bool)

/-- The mappers after a call, and its reply. -/
def Mappers.call (mappers : Mappers) : MapperCall → Mappers × MapperReply
  | .explicitMap idType id index mem => mappers.explicitMap idType id index mem
  | .idMap idType id mem => mappers.idMap idType id mem
  | .indexMap idType index mem => mappers.indexMap idType index mem
  | .idRemove idType id => mappers.idRemove idType id
  | .indexRemove idType index => mappers.indexRemove idType index
  | .idArrayGet idType mem => (mappers, mappers.idArrayGet idType mem)
  | .indexArrayGet idType mem => (mappers, mappers.indexArrayGet idType mem)

def mapperStep (mappers : Mappers) (call : MapperCall) : Option Mappers :=
  some (mappers.call call).1

end FalconGpon.Api
