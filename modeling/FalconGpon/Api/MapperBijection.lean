/-
# Mappers are one-to-one

`mapper_kept_iff`: over all sequences of calls from start-up, failing ones included, every
mapper stays a one-to-one relation held in two ascending lists, the two look-ups are inverse
to each other, `id_map` picks the lowest free index, a failing call changes nothing and the
array read-outs are complete and stay inside their arrays, exactly if no read-out is made of
a mapper that has pairs and no `id_map` that would find a free index runs out of memory. The
array of a read-out has one byte where a key takes four.
-/

import FalconGpon.Lib.Transition
import FalconGpon.Api.MapperLists

namespace FalconGpon.Api

open FalconGpon.Lib

/-- A one-to-one relation of ids and indices within the declared ranges, held in two ascending
lists. -/
structure Mapper.OneToOne (m : Mapper) : Prop where
  range : ∀ keyType, ∀ item ∈ m.list .id, m.inRange keyType (item.key keyType) = true
  functional : ∀ item ∈ m.list .id, ∀ other ∈ m.list .id,
    (item.id = other.id ↔ item.index = other.index)
  ascending : ∀ keyType, (m.list keyType).Pairwise fun item other =>
    item.key keyType < other.key keyType
  same : ∀ item, item ∈ m.list .id ↔ item ∈ m.list .index

/-- An array holds every key of the mapper in ascending order and has room for them. -/
structure MapperArray.Complete (array : MapperArray) (m : Mapper) (keyType : MapperKeyType) :
    Prop where
  ascending : array.values.Pairwise fun key other => key < other
  all : ∀ key, key ∈ array.values ↔ ∃ item ∈ m.list keyType, item.key keyType = key
  fits : 4 * array.values.length ≤ array.allocated

/-- What a call has to answer. -/
def MapperAnswer (before after : Mappers) (reply : MapperReply) : MapperCall → Prop
  | .idMap idType id _ =>
      ∀ m, before.keyVerify idType .id id = some m → (∀ item ∈ m.list .id, item.id ≠ id) →
        (∃ index, reply = .found index ∧ m.LowestFree .index index ∧
          after.indexGet idType id = .found index) ∨
        (reply.ret ≠ .success ∧ m.Full .index)
  | .idArrayGet idType _ =>
      ∀ m array, before.mapperGet idType = some m → reply.array = some array →
        array.Complete m .id
  | .indexArrayGet idType _ =>
      ∀ m array, before.mapperGet idType = some m → reply.array = some array →
        array.Complete m .index
  | .explicitMap _ _ _ _ | .indexMap _ _ _ | .idRemove _ _ | .indexRemove _ _ => True

/-- A call leaves every mapper one-to-one and answers as it has to. -/
structure MapperKept (before : Mappers) (call : MapperCall) (after : Mappers) : Prop where
  oneToOne : ∀ idType m, after idType = some m → m.OneToOne
  inverse : ∀ idType id index,
    after.indexGet idType id = .found index ↔ after.idGet idType index = .found id
  unchanged : (before.call call).2.ret ≠ .success → after = before
  answer : MapperAnswer before after (before.call call).2 call

/-- No read-out of a mapper with pairs, and memory for the pair that `id_map` adds. -/
def MapperGuard (before : Mappers) : MapperCall → Prop
  | .idMap idType id mem =>
      ∀ m, before.keyVerify idType .id id = some m → (∀ item ∈ m.list .id, item.id ≠ id) →
        mem = true ∨ m.Full .index
  | .idArrayGet idType mem =>
      ∀ m, before.mapperGet idType = some m → mem = true → m.list .id = []
  | .indexArrayGet idType mem =>
      ∀ m, before.mapperGet idType = some m → mem = true → m.list .index = []
  | .explicitMap _ _ _ _ | .indexMap _ _ _ | .idRemove _ _ | .indexRemove _ _ => True

theorem MapperKeyType.eq_other {type keyType : MapperKeyType} (h : type ≠ keyType) :
    type = keyType.other := by
  cases type <;> cases keyType <;> first | rfl | exact absurd rfl h

namespace MapperItem

variable {keyType : MapperKeyType} {key other : BitVec 32}

@[simp]
theorem pair_key : (pair keyType key other).key keyType = key := by
  cases keyType <;> rfl

@[simp]
theorem pair_key_other : (pair keyType key other).key keyType.other = other := by
  cases keyType <;> rfl

theorem eq_pair (keyType : MapperKeyType) (item : MapperItem) :
    item = pair keyType (item.key keyType) (item.key keyType.other) := by
  cases keyType <;> rfl

end MapperItem

namespace Mapper.WellFormed

variable {m : Mapper}

theorem oneToOne (h : m.WellFormed) : m.OneToOne where
  range keyType item hitem := h.range keyType item ((h.mem_iff .id keyType).mp hitem)
  functional item hitem other hother := by
    constructor
    · intro hid
      exact congrArg MapperItem.index (h.eq_of_key_eq .id hitem hother hid)
    · intro hindex
      exact congrArg MapperItem.id (h.eq_of_key_eq .index hitem hother hindex)
  ascending keyType := h.ascending keyType
  same _ := h.mem_iff .id .index

end Mapper.WellFormed

namespace Mappers

variable {mappers : Mappers} {idType : MapperIdType} {keyType : MapperKeyType}
  {key : BitVec 32} {m : Mapper}

def WellFormed (mappers : Mappers) : Prop :=
  ∀ idType m, mappers idType = some m → m.WellFormed

theorem mapperGet_of_keyVerify (h : mappers.keyVerify idType keyType key = some m) :
    mappers.mapperGet idType = some m ∧ m.inRange keyType key = true := by
  rw [keyVerify] at h
  cases hget : mappers.mapperGet idType with
  | none => simp [hget] at h
  | some other =>
      simp only [hget, Option.ite_none_right_eq_some] at h
      exact ⟨h.2 ▸ rfl, Option.some.inj h.2 ▸ h.1⟩

theorem keyVerify_of_mapperGet (hget : mappers.mapperGet idType = some m)
    (hrange : m.inRange keyType key = true) : mappers.keyVerify idType keyType key = some m := by
  simp [keyVerify, hget, hrange]

theorem WellFormed.of_mapperGet (h : mappers.WellFormed)
    (hget : mappers.mapperGet idType = some m) : m.WellFormed :=
  h idType m (Option.ite_none_right_eq_some.mp hget).2

theorem WellFormed.of_keyVerify (h : mappers.WellFormed)
    (hverify : mappers.keyVerify idType keyType key = some m) : m.WellFormed :=
  h.of_mapperGet (mapperGet_of_keyVerify hverify).1

theorem WellFormed.set (h : mappers.WellFormed) (hm : m.WellFormed) :
    (mappers.set idType m).WellFormed := by
  intro other m' hother
  rw [Mappers.set] at hother
  by_cases hsame : other = idType
  · rw [if_pos hsame] at hother
    exact Option.some.inj hother ▸ hm
  · rw [if_neg hsame] at hother
    exact h other m' hother

theorem mEntry_bounds {maxBridgePort : BitVec 32} :
    ∀ entry ∈ mEntry maxBridgePort, entry.minId ≤ entry.maxId ∧ entry.minIdx ≤ entry.maxIdx := by
  have hzero : 0 ≤ maxBridgePort - 1 := Nat.zero_le _
  simpa [mEntry] using hzero

theorem wellFormed_init (maxBridgePort : BitVec 32) : (init maxBridgePort).WellFormed := by
  intro idType m hm
  obtain ⟨entry, hentry, hsome⟩ := List.exists_of_findSome?_eq_some hm
  have hbounds := mEntry_bounds entry hentry
  rw [← Option.some.inj (Option.ite_none_right_eq_some.mp hsome).2]
  exact .init hbounds.1 hbounds.2

/-- A look-up finds the pairs of the mapper. -/
theorem keyGet_eq_found_iff (h : mappers.WellFormed) {other : BitVec 32} :
    mappers.keyGet idType keyType key = .found other ↔
      ∃ m, mappers.mapperGet idType = some m ∧
        MapperItem.pair keyType key other ∈ m.list .id := by
  rw [keyGet]
  constructor
  · intro hfound
    cases hverify : mappers.keyVerify idType keyType key with
    | none => simp [hverify, MapperReply.code, MapperReply.found] at hfound
    | some m =>
        have hm := h.of_keyVerify hverify
        rw [hverify] at hfound
        cases Mapper.itemFind_cases keyType key (hm.ascending keyType) 0 with
        | inl hitem =>
            obtain ⟨n, item, hfind, hplace, hkey⟩ := hitem
            simp only [hfind, Nat.zero_add, hplace, MapperReply.found, MapperReply.mk.injEq,
              Option.some.injEq, true_and, and_true] at hfound
            have hmem := (hm.mem_iff keyType .id).mp (List.mem_of_getElem? hplace)
            rw [← hkey, ← hfound, ← MapperItem.eq_pair]
            exact ⟨m, (mapperGet_of_keyVerify hverify).1, hmem⟩
        | inr habsent =>
            obtain ⟨n, hfind, -⟩ := habsent
            simp [hfind, MapperReply.code, MapperReply.found] at hfound
  · intro hexists
    obtain ⟨m, hget, hmem⟩ := hexists
    have hm := h.of_mapperGet hget
    have hmem' := (hm.mem_iff .id keyType).mp hmem
    have hrange := hm.range keyType _ hmem'
    have hfind := Mapper.itemFind_of_mem (hm.ascending keyType) hmem'
    rw [MapperItem.pair_key] at hrange hfind
    obtain ⟨n, hfind, hplace⟩ := hfind
    rw [keyVerify_of_mapperGet hget hrange]
    dsimp only
    rw [hfind]
    dsimp only
    rw [hplace]
    dsimp only
    rw [MapperItem.pair_key_other]

/-- What mapping a key can come to. -/
inductive KeyMapOutcome (mappers : Mappers) (idType : MapperIdType)
    (keyType : MapperKeyType) (key : BitVec 32) (m : Mapper) (mem : Bool) :
    Mappers × MapperReply → Prop
  | mapped (hold : ∃ item ∈ m.list keyType, item.key keyType = key) :
      KeyMapOutcome mappers idType keyType key m mem (mappers, .code .error)
  | full (hnew : ∀ item ∈ m.list keyType, item.key keyType ≠ key)
      (hfull : m.Full keyType.other) :
      KeyMapOutcome mappers idType keyType key m mem (mappers, .code .error)
  | noMemory (hnew : ∀ item ∈ m.list keyType, item.key keyType ≠ key) (hmem : mem = false)
      (free : BitVec 32) (hfree : m.LowestFree keyType.other free) :
      KeyMapOutcome mappers idType keyType key m mem (mappers, .code .error)
  | added (hnew : ∀ item ∈ m.list keyType, item.key keyType ≠ key) (hmem : mem = true)
      (free : BitVec 32) (hfree : m.LowestFree keyType.other free) (larger : Mapper)
      (hlarger : larger.WellFormed)
      (hpairs : MapperItem.pair keyType key free ∈ larger.list .id) :
      KeyMapOutcome mappers idType keyType key m mem
        (mappers.set idType larger, .found free)

theorem keyMap_outcome (h : mappers.WellFormed)
    (hverify : mappers.keyVerify idType keyType key = some m) (mem : Bool) :
    KeyMapOutcome mappers idType keyType key m mem (mappers.keyMap idType keyType key mem) := by
  have hm := h.of_keyVerify hverify
  rw [keyMap, hverify]
  dsimp only
  by_cases hold : ∃ item ∈ m.list keyType, item.key keyType = key
  · obtain ⟨item, hitem, hkey⟩ := id hold
    obtain ⟨n, hfind, -⟩ := Mapper.itemFind_of_mem (hm.ascending keyType) hitem
    rw [hkey] at hfind
    rw [hfind]
    exact .mapped hold
  · have hnew : ∀ item ∈ m.list keyType, item.key keyType ≠ key :=
      fun item hitem hkey => hold ⟨item, hitem, hkey⟩
    obtain ⟨n, hfind, hgap⟩ := Mapper.itemFind_of_new (hm.ascending keyType) hnew
    rw [hfind]
    dsimp only
    cases hm.freeKeyFind_cases keyType.other with
    | inr hfull =>
        rw [hfull.1]
        exact .full hnew hfull.2
    | inl hfree =>
        obtain ⟨free, place, hfind', hgap', hlowest⟩ := hfree
        rw [hfind']
        cases mem with
        | false => exact .noMemory hnew rfl free hlowest
        | true =>
            have hgaps : ∀ type, Gap (MapperItem.num type)
                ((MapperItem.pair keyType key free).num type) (m.list type)
                (if type = keyType then n else place) := by
              intro type
              by_cases htype : type = keyType
              · rw [if_pos htype, htype, MapperItem.num, MapperItem.pair_key]
                exact hgap
              · rw [if_neg htype, MapperKeyType.eq_other htype, MapperItem.num,
                  MapperItem.pair_key_other]
                exact hgap'
            have hranges : ∀ type,
                m.inRange type ((MapperItem.pair keyType key free).key type) = true := by
              intro type
              by_cases htype : type = keyType
              · rw [htype, MapperItem.pair_key]
                exact (mapperGet_of_keyVerify hverify).2
              · rw [MapperKeyType.eq_other htype, MapperItem.pair_key_other]
                exact hlowest.inRange
            refine .added hnew rfl free hlowest _ (hm.itemAdd hranges hgaps) ?_
            exact (Mapper.WellFormed.mem_itemAdd (hgaps .id).le_length).mpr (.inl rfl)

/-- What removing a key can come to. -/
inductive KeyRemoveOutcome (mappers : Mappers) (idType : MapperIdType)
    (keyType : MapperKeyType) (key : BitVec 32) : Mappers × MapperReply → Prop
  | absent {ret : OmciApiReturn} (hret : ret ≠ .success)
      (hnone : ∀ m, mappers.mapperGet idType = some m →
        ∀ item ∈ m.list .id, item.key keyType ≠ key) :
      KeyRemoveOutcome mappers idType keyType key (mappers, .code ret)
  | removed {m smaller : Mapper} {item : MapperItem}
      (hget : mappers.mapperGet idType = some m) (hitem : item ∈ m.list .id)
      (hkey : item.key keyType = key) (hsmaller : smaller.WellFormed)
      (hpairs : ∀ other, other ∈ smaller.list .id ↔ other ∈ m.list .id ∧ other ≠ item) :
      KeyRemoveOutcome mappers idType keyType key (mappers.set idType smaller, .code .success)

theorem keyRemove_outcome (h : mappers.WellFormed) :
    KeyRemoveOutcome mappers idType keyType key (mappers.keyRemove idType keyType key) := by
  rw [keyRemove]
  cases hverify : mappers.keyVerify idType keyType key with
  | none =>
      refine .absent nofun fun m hget item hitem hkey => ?_
      have hm := h.of_mapperGet hget
      have hrange := hm.range keyType item ((hm.mem_iff .id keyType).mp hitem)
      rw [hkey] at hrange
      rw [keyVerify_of_mapperGet hget hrange] at hverify
      cases hverify
  | some m =>
      have hm := h.of_keyVerify hverify
      have hget := (mapperGet_of_keyVerify hverify).1
      dsimp only
      cases Mapper.itemFind_cases keyType key (hm.ascending keyType) 0 with
      | inr habsent =>
          obtain ⟨n, hfind, hgap⟩ := habsent
          rw [hfind]
          refine .absent nofun fun m' hget' item hitem hkey => ?_
          rw [hget, Option.some.injEq] at hget'
          subst hget'
          obtain ⟨n', hfind', -⟩ := Mapper.itemFind_of_mem (hm.ascending keyType)
            ((hm.mem_iff .id keyType).mp hitem)
          rw [hkey, hfind] at hfind'
          cases hfind'
      | inl hfound =>
          obtain ⟨n, item, hfind, hplace, hkey⟩ := hfound
          rw [Nat.zero_add] at hfind
          have hitem := List.mem_of_getElem? hplace
          have hother := (hm.mem_iff keyType keyType.other).mp hitem
          obtain ⟨place, hfind', hplace'⟩ :=
            Mapper.itemFind_of_mem (hm.ascending keyType.other) hother
          rw [hfind]
          dsimp only
          rw [hplace]
          dsimp only
          rw [hfind']
          have hplaces : ∀ type,
              (m.list type)[if type = keyType then n else place]? = some item := by
            intro type
            by_cases htype : type = keyType
            · rw [if_pos htype, htype]
              exact hplace
            · rw [if_neg htype, MapperKeyType.eq_other htype]
              exact hplace'
          exact .removed hget ((hm.mem_iff keyType .id).mp hitem) hkey (hm.itemRemove hplaces)
            fun other => hm.mem_itemRemove (hplaces .id)

theorem keyRemove_cases (h : mappers.WellFormed) :
    (mappers.keyRemove idType keyType key).1 = mappers ∨
    ((mappers.keyRemove idType keyType key).2.ret = .success ∧
      ∃ smaller : Mapper, smaller.WellFormed ∧
        (mappers.keyRemove idType keyType key).1 = mappers.set idType smaller) := by
  have houtcome : KeyRemoveOutcome mappers idType keyType key
    (mappers.keyRemove idType keyType key) := keyRemove_outcome h
  generalize mappers.keyRemove idType keyType key = result at houtcome ⊢
  cases houtcome with
  | absent hret hnone => exact .inl rfl
  | removed hget hitem hkey hsmaller hpairs => exact .inr ⟨rfl, _, hsmaller, rfl⟩

/-- What mapping a given pair can come to. -/
inductive ExplicitMapOutcome (mappers : Mappers) (idType : MapperIdType)
    (id index : BitVec 32) : Mappers × MapperReply → Prop
  | refused : ExplicitMapOutcome mappers idType id index (mappers, .code .error)
  | added {m larger : Mapper} (hget : mappers.mapperGet idType = some m)
      (hnew : ∀ item ∈ m.list .id, item.id ≠ id ∧ item.index ≠ index)
      (hlarger : larger.WellFormed)
      (hpairs : ∀ item, item ∈ larger.list .id ↔ item = ⟨id, index⟩ ∨ item ∈ m.list .id) :
      ExplicitMapOutcome mappers idType id index (mappers.set idType larger, .code .success)

theorem explicitMap_outcome (h : mappers.WellFormed) (id index : BitVec 32) (mem : Bool) :
    ExplicitMapOutcome mappers idType id index (mappers.explicitMap idType id index mem) := by
  rw [explicitMap]
  cases hid : mappers.keyVerify idType .id id with
  | none => exact .refused
  | some m =>
      cases hindex : mappers.keyVerify idType .index index with
      | none => exact .refused
      | some m' =>
          have hm := h.of_keyVerify hid
          have hget := mapperGet_of_keyVerify hid
          have hget' := mapperGet_of_keyVerify hindex
          have hsame : m' = m := Option.some.inj (hget'.1.symm.trans hget.1)
          rw [hsame] at hget'
          dsimp only
          by_cases hold : ∃ item ∈ m.list .id, item.key .id = id
          · obtain ⟨item, hitem, hkey⟩ := hold
            obtain ⟨n, hfind, -⟩ := Mapper.itemFind_of_mem (hm.ascending .id) hitem
            rw [hkey] at hfind
            rw [hfind]
            exact .refused
          · have hnewId : ∀ item ∈ m.list .id, item.key .id ≠ id :=
              fun item hitem hkey => hold ⟨item, hitem, hkey⟩
            obtain ⟨n, hfind, hgap⟩ := Mapper.itemFind_of_new (hm.ascending .id) hnewId
            rw [hfind]
            by_cases hold : ∃ item ∈ m.list .index, item.key .index = index
            · obtain ⟨item, hitem, hkey⟩ := hold
              obtain ⟨place, hfind', -⟩ := Mapper.itemFind_of_mem (hm.ascending .index) hitem
              rw [hkey] at hfind'
              rw [hfind']
              exact .refused
            · have hnewIndex : ∀ item ∈ m.list .index, item.key .index ≠ index :=
                fun item hitem hkey => hold ⟨item, hitem, hkey⟩
              obtain ⟨place, hfind', hgap'⟩ :=
                Mapper.itemFind_of_new (hm.ascending .index) hnewIndex
              rw [hfind']
              cases mem with
              | false => exact .refused
              | true =>
                  have hnew : ∀ item ∈ m.list .id, item.id ≠ id ∧ item.index ≠ index :=
                    fun item hitem => ⟨hnewId item hitem,
                      hnewIndex item ((hm.mem_iff .id .index).mp hitem)⟩
                  refine .added hget.1 hnew (hm.itemAdd (fun type => ?_) (fun type => ?_))
                    (fun item => Mapper.WellFormed.mem_itemAdd hgap.le_length)
                  · cases type with
                    | id => exact hget.2
                    | index => exact hget'.2
                  · cases type with
                    | id => exact hgap
                    | index => exact hgap'

theorem explicitMap_cases (h : mappers.WellFormed) {id index : BitVec 32} {mem : Bool} :
    (mappers.explicitMap idType id index mem).1 = mappers ∨
    ((mappers.explicitMap idType id index mem).2.ret = .success ∧
      ∃ larger : Mapper, larger.WellFormed ∧
        (mappers.explicitMap idType id index mem).1 = mappers.set idType larger) := by
  have houtcome : ExplicitMapOutcome mappers idType id index
    (mappers.explicitMap idType id index mem) := explicitMap_outcome h id index mem
  generalize mappers.explicitMap idType id index mem = result at houtcome ⊢
  cases houtcome with
  | refused => exact .inl rfl
  | added hget hnew hlarger hpairs => exact .inr ⟨rfl, _, hlarger, rfl⟩

/-- No call puts a mapper out of order, and a failing one changes nothing. -/
theorem call_kept (h : mappers.WellFormed) (call : MapperCall) : (mappers.call call).1.WellFormed ∧
      ((mappers.call call).2.ret ≠ .success → (mappers.call call).1 = mappers) := by
  have hmap : ∀ idType keyType key mem,
      (mappers.keyMap idType keyType key mem).1.WellFormed ∧
        ((mappers.keyMap idType keyType key mem).2.ret ≠ .success →
          (mappers.keyMap idType keyType key mem).1 = mappers) := by
    intro idType keyType key mem
    cases hverify : mappers.keyVerify idType keyType key with
    | none => simp [keyMap, hverify, h]
    | some m =>
        have houtcome := keyMap_outcome h hverify mem
        generalize mappers.keyMap idType keyType key mem = result at houtcome ⊢
        cases houtcome with
        | mapped | full | noMemory => exact ⟨h, fun _ => rfl⟩
        | added hnew hmem free hfree larger hlarger hpairs =>
            exact ⟨h.set hlarger, fun hret => absurd rfl hret⟩
  have hchange : ∀ result : Mappers × MapperReply,
      (result.1 = mappers ∨ (result.2.ret = .success ∧
        ∃ m : Mapper, m.WellFormed ∧ ∃ idType, result.1 = mappers.set idType m)) →
      result.1.WellFormed ∧ (result.2.ret ≠ .success → result.1 = mappers) := by
    rintro result (hsame | ⟨hret, m, hm, idType, hset⟩)
    · exact ⟨hsame ▸ h, fun _ => hsame⟩
    · exact ⟨hset ▸ h.set hm, fun hfailed => absurd hret hfailed⟩
  cases call with
  | explicitMap idType id index mem =>
      exact hchange _ ((explicitMap_cases h).imp_right
        fun hadd => ⟨hadd.1, hadd.2.imp fun m hm => ⟨hm.1, idType, hm.2⟩⟩)
  | idMap idType id mem => exact hmap idType .id id mem
  | indexMap idType index mem => exact hmap idType .index index mem
  | idRemove idType id | indexRemove idType index =>
      exact hchange _ ((keyRemove_cases h).imp_right
        fun hdel => ⟨hdel.1, hdel.2.imp fun m hm => ⟨hm.1, idType, hm.2⟩⟩)
  | idArrayGet idType mem => exact ⟨h, fun _ => rfl⟩
  | indexArrayGet idType mem => exact ⟨h, fun _ => rfl⟩

theorem indexGet_eq_found_iff_idGet (h : mappers.WellFormed) {id index : BitVec 32} :
    mappers.indexGet idType id = .found index ↔ mappers.idGet idType index = .found id := by
  rw [indexGet, idGet, keyGet_eq_found_iff h, keyGet_eq_found_iff h]
  exact Iff.rfl

theorem complete_iff :
    MapperArray.Complete ⟨(m.list keyType).length, (m.list keyType).map (MapperItem.key · keyType)⟩
      m keyType ↔ m.list keyType = [] := by
  constructor
  · intro hcomplete
    have hfits : 4 * ((m.list keyType).map (MapperItem.key · keyType)).length ≤
      (m.list keyType).length := hcomplete.fits
    rw [List.length_map] at hfits
    exact List.length_eq_zero_iff.mp (by omega)
  · intro hempty
    rw [hempty]
    exact ⟨.nil, fun key => by simp [hempty], le_refl _⟩

/-- A read-out is complete and stays inside its array exactly if there is nothing to read, or
no memory. -/
theorem arrayGet_complete_iff {mem : Bool} : (∀ m array, mappers.mapperGet idType = some m →
      (mappers.arrayGet idType keyType mem).array = some array → array.Complete m keyType) ↔
    ∀ m, mappers.mapperGet idType = some m → mem = true → m.list keyType = [] := by
  rw [arrayGet]
  constructor
  · intro hcomplete m hget hmem
    by_contra hsome
    apply hsome
    rw [← complete_iff]
    apply hcomplete m _ hget
    rw [hget, hmem]
    dsimp only
    rw [if_neg hsome, if_pos rfl]
  · intro hguard m array hget harray
    rw [hget] at harray
    dsimp only at harray
    by_cases hempty : m.list keyType = []
    · rw [if_pos hempty] at harray
      rw [← Option.some.inj harray]
      exact ⟨.nil, fun key => by simp [hempty], le_refl _⟩
    · rw [if_neg hempty] at harray
      cases mem with
      | false => cases harray
      | true => exact absurd (hguard m hget rfl) hempty

/-- `id_map` picks the lowest free index, or every index is taken, exactly if it does not run
out of memory for the pair. -/
theorem idMap_answer_iff (h : mappers.WellFormed) {id : BitVec 32} {mem : Bool} :
    MapperAnswer mappers (mappers.call (.idMap idType id mem)).1
        (mappers.call (.idMap idType id mem)).2 (.idMap idType id mem) ↔
      MapperGuard mappers (.idMap idType id mem) := by
  apply forall_congr'
  intro m
  apply forall_congr'
  intro hverify
  apply forall_congr'
  intro hnew
  have houtcome := keyMap_outcome h hverify mem
  have hget := (mapperGet_of_keyVerify hverify).1
  rw [call, idMap]
  generalize mappers.keyMap idType .id id mem = result at houtcome ⊢
  cases houtcome with
  | mapped hold =>
      obtain ⟨item, hitem, hkey⟩ := hold
      exact absurd hkey (hnew item hitem)
  | full hnew hfull =>
      exact ⟨fun _ => .inr hfull, fun _ => .inr ⟨nofun, hfull⟩⟩
  | noMemory hnew hmem free hfree =>
      constructor
      · rintro (⟨index, hreply, -⟩ | ⟨-, hfull⟩)
        · cases hreply
        · exact .inr hfull
      · rintro (htrue | hfull)
        · exact absurd htrue (by rw [hmem]; exact Bool.false_ne_true)
        · exact .inr ⟨nofun, hfull⟩
  | added hnew hmem free hfree larger hlarger hpairs =>
      refine ⟨fun _ => .inl hmem, fun _ => .inl ⟨free, rfl, hfree, ?_⟩⟩
      rw [indexGet, keyGet_eq_found_iff (h.set hlarger)]
      refine ⟨larger, ?_, hpairs⟩
      have hlt := (Option.ite_none_right_eq_some.mp hget).1
      rw [mapperGet, if_pos hlt, set, if_pos rfl]

theorem answer_iff (h : mappers.WellFormed) (call : MapperCall) :
    MapperAnswer mappers (mappers.call call).1 (mappers.call call).2 call ↔
      MapperGuard mappers call := by
  cases call with
  | idMap => exact idMap_answer_iff h
  | idArrayGet => exact arrayGet_complete_iff
  | indexArrayGet => exact arrayGet_complete_iff
  | explicitMap | indexMap | idRemove | indexRemove => exact Iff.rfl

end Mappers

/-- Over all sequences of calls, the mappers stay one-to-one and every call answers as it has
to exactly if no read-out is made of a mapper with pairs and `id_map` does not run out of
memory. -/
theorem mapper_kept_iff (maxBridgePort : BitVec 32) (calls : List MapperCall) :
    Along mapperStep MapperKept (Mappers.init maxBridgePort) calls ↔
      Along mapperStep (fun before call _ => MapperGuard before call)
        (Mappers.init maxBridgePort) calls := by
  refine along_iff_guard ?_ (Mappers.wellFormed_init maxBridgePort) calls
  intro before call after hbefore hstep
  have hafter : after = (before.call call).1 := (Option.some.inj hstep).symm
  have hkept := Mappers.call_kept hbefore call
  have hanswer := Mappers.answer_iff hbefore call
  rw [← hafter] at hkept hanswer
  constructor
  · constructor
    · intro hcall
      exact hanswer.mp hcall.answer
    · intro hguard
      exact
        { oneToOne := fun idType m hm => (hkept.1 idType m hm).oneToOne
          inverse := fun idType id index => Mappers.indexGet_eq_found_iff_idGet hkept.1
          unchanged := hkept.2
          answer := hanswer.mpr hguard }
  · exact fun _ => hkept.1

/-- Whatever calls are made, failing ones included, the mappers stay one-to-one and in order, each
look-up inverts the other, and a call that fails changes nothing. -/
theorem mappers_wellFormed (maxBridgePort : BitVec 32) (calls : List MapperCall) :
    Along mapperStep (fun before call after => after.WellFormed ∧
        (∀ idType id index, after.indexGet idType id = .found index ↔
          after.idGet idType index = .found id) ∧
        ((before.call call).2.ret ≠ .success → after = before))
      (Mappers.init maxBridgePort) calls := by
  refine Along.of_invariant ?_ (Mappers.wellFormed_init maxBridgePort) calls
  intro before call after hbefore hstep
  obtain rfl := Option.some.inj hstep
  obtain ⟨hafter, hfailed⟩ := Mappers.call_kept hbefore call
  exact ⟨⟨hafter, fun idType id index => Mappers.indexGet_eq_found_iff_idGet hafter, hfailed⟩,
    hafter⟩

/-- Reading out the ids of a mapper with one pair writes behind its array. -/
theorem not_mapper_kept : ¬ ∀ calls, Along mapperStep MapperKept (Mappers.init 8) calls := by
  intro hkept
  have hrun := hkept [.idMap MapperIdType.gemitpMeidToGpix 1 true,
    .idArrayGet MapperIdType.gemitpMeidToGpix true]
  have hcomplete := hrun.2.1.answer _ ⟨1, [1]⟩ rfl rfl
  exact absurd hcomplete.fits (by decide)

end FalconGpon.Api
