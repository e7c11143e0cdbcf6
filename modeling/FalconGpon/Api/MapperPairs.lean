/-
# The mappers as relations

What a mapper is for: it relates ids and indices. `Mappers.Mapped` is this relation, one-to-one
while the mappers are in order, and each call of the interface has one lemma that says what it
does to it.
-/

import FalconGpon.Api.MapperBijection
import Mathlib.Data.List.FinRange

namespace FalconGpon.Api

open FalconGpon.Lib

theorem meId_inj {meId other : BitVec 16} (h : meId.setWidth 32 = other.setWidth 32) :
    meId = other := by
  have hnum := congrArg BitVec.toNat h
  rw [BitVec.toNat_setWidth, BitVec.toNat_setWidth] at hnum
  apply BitVec.eq_of_toNat_eq
  omega

namespace Mappers

def Mapped (mappers : Mappers) (idType : MapperIdType) (id index : BitVec 32) : Prop :=
  ∃ m, mappers.mapperGet idType = some m ∧ ⟨id, index⟩ ∈ m.list .id

variable {mappers : Mappers} {idType : MapperIdType} {id index id' index' : BitVec 32}

theorem mapped_iff_mem {m : Mapper} (hget : mappers.mapperGet idType = some m) :
    mappers.Mapped idType id index ↔ ⟨id, index⟩ ∈ m.list .id := by
  constructor
  · rintro ⟨m', hget', hitem⟩
    rw [hget, Option.some.injEq] at hget'
    exact hget' ▸ hitem
  · exact fun hitem => ⟨m, hget, hitem⟩

theorem not_mapped_init (maxBridgePort : BitVec 32) :
    ¬(init maxBridgePort).Mapped idType id index := by
  rintro ⟨m, hget, hitem⟩
  obtain ⟨entry, -, hsome⟩ :=
    List.exists_of_findSome?_eq_some (Option.ite_none_right_eq_some.mp hget).2
  rw [← Option.some.inj (Option.ite_none_right_eq_some.mp hsome).2] at hitem
  cases hitem

theorem indexGet_eq_found_iff (h : mappers.WellFormed) :
    mappers.indexGet idType id = .found index ↔ mappers.Mapped idType id index :=
  keyGet_eq_found_iff h

/-- A look-up finds the index of an id, or says that there is none. -/
theorem WellFormed.indexGet_cases (h : mappers.WellFormed) (idType : MapperIdType) (id : BitVec 32) :
    (∃ index, mappers.indexGet idType id = .found index ∧ mappers.Mapped idType id index) ∨
      (∃ ret ≠ .success, mappers.indexGet idType id = .code ret) ∧
        ∀ index, ¬mappers.Mapped idType id index := by
  have hreply : (∃ index, mappers.indexGet idType id = .found index) ∨
      ∃ ret ≠ .success, mappers.indexGet idType id = .code ret := by
    rw [indexGet, keyGet]
    cases hverify : mappers.keyVerify idType .id id with
    | none => exact .inr ⟨.error, (fun h => by cases h), rfl⟩
    | some m =>
        have hm := h.of_keyVerify hverify
        cases Mapper.itemFind_cases .id id (hm.ascending .id) 0 with
        | inl hfound =>
            obtain ⟨n, item, hfind, hplace, -⟩ := hfound
            rw [Nat.zero_add] at hfind
            exact .inl ⟨item.index, by simp only [hfind, hplace]; rfl⟩
        | inr habsent =>
            obtain ⟨n, hfind, -⟩ := habsent
            exact .inr ⟨.notFound, (fun h => by cases h), by simp only [hfind]⟩
  refine hreply.imp (fun hfound => ?_) (fun hcode => ⟨hcode, fun index hmapped => ?_⟩)
  · obtain ⟨index, hget⟩ := hfound
    exact ⟨index, hget, (indexGet_eq_found_iff h).mp hget⟩
  · obtain ⟨ret, hret, hget⟩ := hcode
    rw [(indexGet_eq_found_iff h).mpr hmapped] at hget
    exact hret (congrArg MapperReply.ret hget).symm

theorem Mapped.eq_iff (h : mappers.WellFormed) (hone : mappers.Mapped idType id index)
    (htwo : mappers.Mapped idType id' index') : id = id' ↔ index = index' := by
  obtain ⟨m, hget, hitem⟩ := hone
  obtain ⟨m', hget', hitem'⟩ := htwo
  have hsame : m = m' := Option.some.inj (hget.symm.trans hget')
  subst hsame
  exact (h.of_mapperGet hget).oneToOne.functional _ hitem _ hitem'

theorem Mapped.index_unique (h : mappers.WellFormed) (hone : mappers.Mapped idType id index)
    (htwo : mappers.Mapped idType id index') : index = index' :=
  (hone.eq_iff h htwo).mp rfl

theorem Mapped.id_unique (h : mappers.WellFormed) (hone : mappers.Mapped idType id index)
    (htwo : mappers.Mapped idType id' index) : id = id' :=
  (hone.eq_iff h htwo).mpr rfl

theorem mapped_set {m m' : Mapper} (hget : mappers.mapperGet idType = some m)
    {other : MapperIdType} : (mappers.set idType m').Mapped other id index ↔
      if other = idType then ⟨id, index⟩ ∈ m'.list .id else mappers.Mapped other id index := by
  have hmax : idType < MapperIdType.max := (Option.ite_none_right_eq_some.mp hget).1
  unfold Mapped mapperGet
  by_cases hother : other = idType
  · subst hother
    simp [hmax, Mappers.set]
  · simp [hother, Mappers.set]

/-- Mapping a pair is refused and changes nothing, or its keys are new and it is added. -/
theorem mapped_explicitMap (h : mappers.WellFormed) (idType : MapperIdType)
    (id index : BitVec 32) (mem : Bool) :
    ((mappers.explicitMap idType id index mem).2.ret ≠ .success ∧
      (mappers.explicitMap idType id index mem).1 = mappers) ∨
    ((mappers.explicitMap idType id index mem).2.ret = .success ∧
      (mappers.explicitMap idType id index mem).1.WellFormed ∧
      (∀ other otherIndex, mappers.Mapped idType other otherIndex →
        other ≠ id ∧ otherIndex ≠ index) ∧
      ∀ otherType other otherIndex,
        (mappers.explicitMap idType id index mem).1.Mapped otherType other otherIndex ↔
          (otherType = idType ∧ other = id ∧ otherIndex = index) ∨
            mappers.Mapped otherType other otherIndex) := by
  have houtcome : ExplicitMapOutcome mappers idType id index
    (mappers.explicitMap idType id index mem) := explicitMap_outcome h id index mem
  generalize mappers.explicitMap idType id index mem = result at houtcome ⊢
  cases houtcome with
  | refused => exact .inl ⟨nofun, rfl⟩
  | @added m larger hget hnew hlarger hpairs =>
      refine .inr ⟨rfl, h.set hlarger, ?_, ?_⟩
      · exact fun other otherIndex hother => hnew _ ((mapped_iff_mem hget).mp hother)
      · intro otherType other otherIndex
        rw [mapped_set hget]
        by_cases htype : otherType = idType
        · subst htype
          rw [if_pos rfl, hpairs, MapperItem.mk.injEq, mapped_iff_mem hget, eq_self_iff_true,
            true_and]
        · rw [if_neg htype]
          simp [htype]

/-- Mapping a new id adds a pair with a new index while there is one. -/
theorem mapped_idMap (h : mappers.WellFormed) {m : Mapper}
    (hget : mappers.mapperGet idType = some m) (hrange : m.inRange .id id = true)
    (hnew : ∀ index, ¬mappers.Mapped idType id index) (hroom : ¬m.Full .index) :
    ∃ index, (mappers.idMap idType id true).2 = .found index ∧
      (mappers.idMap idType id true).1.WellFormed ∧ m.inRange .index index = true ∧
      (∀ other, ¬mappers.Mapped idType other index) ∧
      ∀ otherType other otherIndex,
        (mappers.idMap idType id true).1.Mapped otherType other otherIndex ↔
          (otherType = idType ∧ other = id ∧ otherIndex = index) ∨
            mappers.Mapped otherType other otherIndex := by
  have hm := h.of_mapperGet hget
  have hnewItem : ∀ item ∈ m.list .id, item.key .id ≠ id := by
    intro item hitem hkey
    have heq : item = ⟨id, item.index⟩ := by rw [← hkey]; rfl
    exact hnew item.index ((mapped_iff_mem hget).mpr (heq ▸ hitem))
  obtain ⟨idPos, hfind, hgap⟩ := Mapper.itemFind_of_new (hm.ascending .id) hnewItem
  obtain ⟨free, freePos, hfree, hfreeGap, hlowest⟩ :=
    (hm.freeKeyFind_cases .index).resolve_right fun hfull => hroom hfull.2
  have hgaps (type : MapperKeyType) : Gap (MapperItem.num type)
      (MapperItem.num type ⟨id, free⟩) (m.list type) (if type = .id then idPos else freePos) := by
    cases type with
    | id => exact hgap
    | index => exact hfreeGap
  have hranges (type : MapperKeyType) : m.inRange type (MapperItem.key ⟨id, free⟩ type) = true := by
    cases type with
    | id => exact hrange
    | index => exact hlowest.inRange
  have hcall : mappers.idMap idType id true =
      (mappers.set idType (m.itemAdd (fun type => if type = .id then idPos else freePos)
        ⟨id, free⟩), .found free) := by
    rw [idMap, keyMap, keyVerify_of_mapperGet hget hrange]
    dsimp only
    rw [hfind]
    dsimp only [MapperKeyType.other]
    rw [hfree]
    rfl
  rw [hcall]
  refine ⟨free, rfl, h.set (hm.itemAdd hranges hgaps), hlowest.inRange, ?_, ?_⟩
  · intro other hother
    exact hlowest.free _ ((hm.mem_iff .id .index).mp ((mapped_iff_mem hget).mp hother)) rfl
  · intro otherType other otherIndex
    rw [mapped_set hget]
    by_cases htype : otherType = idType
    · subst htype
      rw [if_pos rfl, mapped_iff_mem hget, Mapper.WellFormed.mem_itemAdd (hgaps .id).le_length,
        MapperItem.mk.injEq, eq_self_iff_true, true_and]
    · rw [if_neg htype]
      simp [htype]

/-- The ranges of the mappers stay as they are. -/
def SameRanges (mappers mappers' : Mappers) : Prop :=
  ∀ idType m, mappers.mapperGet idType = some m →
    ∃ m', mappers'.mapperGet idType = some m' ∧ ∀ keyType key,
      m'.inRange keyType key = m.inRange keyType key

theorem SameRanges.refl (mappers : Mappers) : mappers.SameRanges mappers :=
  fun _ m hget => ⟨m, hget, fun _ _ => rfl⟩

theorem sameRanges_set {m changed : Mapper} (hverify : ∃ keyType key,
    mappers.keyVerify idType keyType key = some m)
    (hranges : ∀ keyType key, changed.inRange keyType key = m.inRange keyType key) :
    mappers.SameRanges (mappers.set idType changed) := by
  obtain ⟨keyType, key, hverify⟩ := hverify
  have hget := (mapperGet_of_keyVerify hverify).1
  intro other m' hget'
  by_cases hother : other = idType
  · subst hother
    refine ⟨changed, ?_, fun keyType key => ?_⟩
    · rw [mapperGet, if_pos (Option.ite_none_right_eq_some.mp hget).1, Mappers.set, if_pos rfl]
    · rw [Option.some.inj (hget'.symm.trans hget)]
      exact hranges keyType key
  · refine ⟨m', ?_, fun _ _ => rfl⟩
    rw [← hget', mapperGet, mapperGet, Mappers.set, if_neg hother]

theorem sameRanges_idMap (mappers : Mappers) (idType : MapperIdType) (id : BitVec 32)
    (mem : Bool) : mappers.SameRanges (mappers.idMap idType id mem).1 := by
  rw [idMap, keyMap]
  split
  · exact .refl mappers
  · rename_i m hverify
    split
    · split
      · exact .refl mappers
      · split
        · exact sameRanges_set ⟨_, _, hverify⟩ fun _ _ => rfl
        · exact .refl mappers
    · exact .refl mappers

theorem sameRanges_keyRemove (mappers : Mappers) (idType : MapperIdType)
    (keyType : MapperKeyType) (key : BitVec 32) :
    mappers.SameRanges (mappers.keyRemove idType keyType key).1 := by
  rw [keyRemove]
  split
  · exact .refl mappers
  · rename_i m hverify
    split
    · split
      · exact .refl mappers
      · split
        · exact sameRanges_set ⟨_, _, hverify⟩ fun _ _ => rfl
        · exact .refl mappers
    · exact .refl mappers

/-- Removing a key fails and changes nothing if it has no pair, else its pair goes. -/
theorem mapped_keyRemove (h : mappers.WellFormed) (idType : MapperIdType)
    (keyType : MapperKeyType) (key : BitVec 32) :
    ((mappers.keyRemove idType keyType key).2.ret ≠ .success ∧
      (mappers.keyRemove idType keyType key).1 = mappers ∧
        ∀ id index, mappers.Mapped idType id index → MapperItem.key ⟨id, index⟩ keyType ≠ key) ∨
    ((mappers.keyRemove idType keyType key).2.ret = .success ∧
      (mappers.keyRemove idType keyType key).1.WellFormed ∧
      (∃ id index, mappers.Mapped idType id index ∧ MapperItem.key ⟨id, index⟩ keyType = key) ∧
      ∀ otherType other otherIndex,
        (mappers.keyRemove idType keyType key).1.Mapped otherType other otherIndex ↔
          mappers.Mapped otherType other otherIndex ∧
            ¬(otherType = idType ∧ MapperItem.key ⟨other, otherIndex⟩ keyType = key)) := by
  have houtcome : KeyRemoveOutcome mappers idType keyType key
    (mappers.keyRemove idType keyType key) := keyRemove_outcome h
  generalize mappers.keyRemove idType keyType key = result at houtcome ⊢
  cases houtcome with
  | absent hret hnone =>
      refine .inl ⟨hret, rfl, ?_⟩
      rintro id index ⟨m, hget, hitem⟩
      exact hnone m hget _ hitem
  | @removed m smaller item hget hitem hkey hsmaller hpairs =>
      refine .inr ⟨rfl, h.set hsmaller, ⟨item.id, item.index, ⟨m, hget, hitem⟩, hkey⟩, ?_⟩
      intro otherType other otherIndex
      rw [mapped_set hget]
      by_cases htype : otherType = idType
      · subst htype
        rw [if_pos rfl, hpairs, eq_self_iff_true, true_and, mapped_iff_mem hget]
        refine and_congr_right fun hother => not_congr ?_
        constructor
        · rintro rfl
          exact hkey
        · intro hsame
          exact (h.of_mapperGet hget).eq_of_key_eq keyType hother hitem (hsame.trans hkey.symm)
      · rw [if_neg htype]
        simp [htype]

theorem mapped_idRemove (h : mappers.WellFormed) (idType : MapperIdType) (id : BitVec 32) :
    ((mappers.idRemove idType id).2.ret ≠ .success ∧
      (mappers.idRemove idType id).1 = mappers ∧ ∀ index, ¬mappers.Mapped idType id index) ∨
    ((mappers.idRemove idType id).2.ret = .success ∧ (mappers.idRemove idType id).1.WellFormed ∧
      (∃ index, mappers.Mapped idType id index) ∧
      ∀ otherType other otherIndex,
        (mappers.idRemove idType id).1.Mapped otherType other otherIndex ↔
          mappers.Mapped otherType other otherIndex ∧ ¬(otherType = idType ∧ other = id)) := by
  rcases mapped_keyRemove h idType .id id with ⟨hret, hsame, hnone⟩ | ⟨hret, hwell, hpair, hpairs⟩
  · exact .inl ⟨hret, hsame, fun index hmapped => hnone id index hmapped rfl⟩
  · obtain ⟨id', index, hmapped, rfl⟩ := hpair
    exact .inr ⟨hret, hwell, ⟨index, hmapped⟩, hpairs⟩

/-- Mapping an id is refused and changes nothing, or adds a pair with a new index. -/
theorem mapped_idMap_cases (h : mappers.WellFormed) (idType : MapperIdType) (id : BitVec 32)
    (mem : Bool) : ((mappers.idMap idType id mem).2.ret ≠ .success ∧
      (mappers.idMap idType id mem).1 = mappers) ∨
    ∃ m index, mappers.mapperGet idType = some m ∧ (mappers.idMap idType id mem).2 = .found index ∧
      (mappers.idMap idType id mem).1.WellFormed ∧ m.inRange .index index = true ∧
      (∀ other, ¬mappers.Mapped idType other index) ∧
      ∀ otherType other otherIndex,
        (mappers.idMap idType id mem).1.Mapped otherType other otherIndex ↔
          (otherType = idType ∧ other = id ∧ otherIndex = index) ∨
            mappers.Mapped otherType other otherIndex := by
  cases hverify : mappers.keyVerify idType .id id with
  | none =>
      left
      rw [idMap, keyMap, hverify]
      exact ⟨(fun h => by cases h), rfl⟩
  | some m =>
      obtain ⟨hget, hrange⟩ := mapperGet_of_keyVerify hverify
      have houtcome : KeyMapOutcome mappers idType .id id m mem (mappers.idMap idType id mem) :=
        keyMap_outcome h hverify mem
      generalize hresult : mappers.idMap idType id mem = result at houtcome
      cases houtcome with
      | mapped hold | full hnew hfull | noMemory hnew hmem free hfree =>
          exact .inl ⟨(fun h => by cases h), rfl⟩
      | added hnew hmem free hfree larger hlarger hpairs =>
          subst hmem
          have hnew' : ∀ index, ¬mappers.Mapped idType id index :=
            fun index hmapped => hnew _ ((mapped_iff_mem hget).mp hmapped) rfl
          have hroom : ¬m.Full .index := by
            intro hfull
            obtain ⟨item, hitem, hkey⟩ := hfull free hfree.inRange
            exact hfree.free item hitem hkey
          have hadded := mapped_idMap h hget hrange hnew' hroom
          rw [hresult] at hadded
          obtain ⟨index, hadded⟩ := hadded
          exact .inr ⟨m, index, hget, hadded⟩

end Mappers

end FalconGpon.Api
