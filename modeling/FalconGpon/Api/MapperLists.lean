/-
# The ordered lists of a mapper

What the searches of a mapper leave behind: `item_find` stops at the pair with the key or at
the gap for it, and `free_key_find` at the gap for the lowest key that is not in the list.
`Mapper.WellFormed` is what the two lists of a mapper have in common; adding a pair at two
such gaps and removing a pair at its two places keep it.
-/

import Mathlib.Data.List.Perm.Basic
import FalconGpon.Api.Mapper

namespace FalconGpon.Api

open FalconGpon.Lib

def MapperItem.num (keyType : MapperKeyType) (item : MapperItem) : Nat :=
  (item.key keyType).toNat

namespace Mapper

variable {keyType : MapperKeyType} {items : List MapperItem}

variable {item : MapperItem}

theorem num_inj {key : BitVec 32} (h : item.num keyType = key.toNat) : item.key keyType = key :=
  BitVec.eq_of_toNat_eq h

theorem toNat_key_succ {bound : BitVec 32} (h : item.num keyType < bound.toNat) :
    (item.key keyType + 1).toNat = item.num keyType + 1 := by
  rw [MapperItem.num] at h ⊢
  bv_omega

theorem one_lt_sub_iff {next : MapperItem} (h : item.num keyType < next.num keyType) :
    1 < next.key keyType - item.key keyType ↔ item.num keyType + 1 < next.num keyType := by
  rw [MapperItem.num, MapperItem.num] at h ⊢
  bv_omega

/-- What `item_find` finds is the pair behind the position; otherwise the position is the gap
for the key. -/
theorem itemFind_cases (keyType : MapperKeyType) (key : BitVec 32)
    (hasc : Ascending (MapperItem.num keyType) items) (pos : Nat) :
    (∃ n item, itemFind keyType key items pos = (.success, pos + n) ∧
      items[n]? = some item ∧ item.key keyType = key) ∨
    ∃ n, itemFind keyType key items pos = (.notFound, pos + n) ∧
      Gap (MapperItem.num keyType) key.toNat items n := by
  induction items generalizing pos with
  | nil => exact .inr ⟨0, rfl, .front fun y hy => by cases hy⟩
  | cons head rest ih =>
      have hsplit := List.pairwise_cons.mp hasc
      rw [itemFind]
      by_cases hlt : key < head.key keyType
      · rw [if_pos hlt]
        refine .inr ⟨0, rfl, .front fun y hy => ?_⟩
        cases List.mem_cons.mp hy with
        | inl hsame => exact hsame ▸ hlt
        | inr hrest => exact lt_trans hlt (hsplit.1 y hrest)
      · rw [if_neg hlt]
        by_cases heq : head.key keyType = key
        · rw [if_pos heq]
          exact .inl ⟨0, head, rfl, rfl, heq⟩
        · rw [if_neg heq]
          have hhead : head.num keyType < key.toNat := by
            have hne : head.num keyType ≠ key.toNat := fun h => heq (num_inj h)
            have hle : head.num keyType ≤ key.toNat := Nat.not_lt.mp hlt
            omega
          cases ih hsplit.2 (pos + 1) with
          | inl hfound =>
              obtain ⟨n, item, hfind, hitem, hkey⟩ := hfound
              exact .inl ⟨n + 1, item, by rw [hfind]; congr 1; omega, hitem, hkey⟩
          | inr habsent =>
              obtain ⟨n, hfind, hgap⟩ := habsent
              exact .inr ⟨n + 1, by rw [hfind]; congr 1; omega, hgap.cons hhead⟩

theorem itemFind_of_mem (hasc : Ascending (MapperItem.num keyType) items) (hitem : item ∈ items) :
    ∃ n, itemFind keyType (item.key keyType) items 0 = (.success, n) ∧
      items[n]? = some item := by
  cases itemFind_cases keyType (item.key keyType) hasc 0 with
  | inl hfound =>
      obtain ⟨n, found, hfind, hplace, hkey⟩ := hfound
      have hmem := List.mem_of_getElem? hplace
      have hsame : found = item :=
        hasc.eq_of_key_eq hmem hitem (congrArg BitVec.toNat hkey)
      exact ⟨n, by rw [hfind, Nat.zero_add], hsame ▸ hplace⟩
  | inr habsent =>
      obtain ⟨n, -, hgap⟩ := habsent
      exact absurd rfl (hgap.ne hitem)

theorem itemFind_of_new {key : BitVec 32} (hasc : Ascending (MapperItem.num keyType) items)
    (hnew : ∀ item ∈ items, item.key keyType ≠ key) :
    ∃ n, itemFind keyType key items 0 = (.notFound, n) ∧
      Gap (MapperItem.num keyType) key.toNat items n := by
  cases itemFind_cases keyType key hasc 0 with
  | inl hfound =>
      obtain ⟨n, found, -, hplace, hkey⟩ := hfound
      exact absurd hkey (hnew found (List.mem_of_getElem? hplace))
  | inr habsent =>
      obtain ⟨n, hfind, hgap⟩ := habsent
      exact ⟨n, by rw [hfind, Nat.zero_add], hgap⟩

/-- The search behind a pair stops at the gap for the lowest free key above it, or all keys
above it are taken. -/
theorem freeKeyAfter_cases {maxKey : BitVec 32}
    (hasc : Ascending (MapperItem.num keyType) (item :: items))
    (hmax : ∀ y ∈ item :: items, y.num keyType ≤ maxKey.toNat) (pos : Nat) :
    (∃ key n, freeKeyAfter keyType maxKey item items pos = some (key, pos + n) ∧
      Gap (MapperItem.num keyType) key.toNat items n ∧
      item.num keyType < key.toNat ∧ key.toNat ≤ maxKey.toNat ∧
      ∀ j, item.num keyType < j → j < key.toNat → ∃ y ∈ items, y.num keyType = j) ∨
    (freeKeyAfter keyType maxKey item items pos = none ∧
      ∀ j, item.num keyType < j → j ≤ maxKey.toNat → ∃ y ∈ items, y.num keyType = j) := by
  induction items generalizing item pos with
  | nil =>
      have hle : item.num keyType ≤ maxKey.toNat := hmax item List.mem_cons_self
      rw [freeKeyAfter]
      by_cases hlast : item.key keyType = maxKey
      · rw [if_pos hlast]
        have hsame : item.num keyType = maxKey.toNat := congrArg BitVec.toNat hlast
        exact .inr ⟨rfl, fun j hj hjmax => by omega⟩
      · rw [if_neg hlast]
        have hne : item.num keyType ≠ maxKey.toNat := fun h => hlast (num_inj h)
        have hnext : (item.key keyType + 1).toNat = item.num keyType + 1 :=
          toNat_key_succ (lt_of_le_of_ne hle hne)
        refine .inl ⟨_, 0, rfl, .front fun y hy => (by cases hy), ?_, ?_, ?_⟩
        · omega
        · omega
        · intro j hlow hhigh
          omega
  | cons next rest ih =>
      have hsplit := List.pairwise_cons.mp hasc
      have hlt : item.num keyType < next.num keyType := hsplit.1 next List.mem_cons_self
      have hnextMax : next.num keyType ≤ maxKey.toNat :=
        hmax next (List.mem_cons_of_mem _ List.mem_cons_self)
      have hdiff := one_lt_sub_iff hlt
      rw [freeKeyAfter]
      by_cases hgap : 1 < next.key keyType - item.key keyType
      · rw [if_pos hgap]
        have hroom := hdiff.mp hgap
        have hkey : (item.key keyType + 1).toNat = item.num keyType + 1 :=
          toNat_key_succ (lt_of_lt_of_le hlt hnextMax)
        refine .inl ⟨_, 0, rfl, .front fun y hy => ?_, ?_, ?_, ?_⟩
        · have hnext : next.num keyType ≤ y.num keyType := by
            cases List.mem_cons.mp hy with
            | inl hsame => rw [hsame]
            | inr hrest =>
                exact Nat.le_of_lt ((List.pairwise_cons.mp hsplit.2).1 y hrest)
          omega
        · omega
        · omega
        · intro j hlow hhigh
          omega
      · rw [if_neg hgap]
        have hadjacent : next.num keyType = item.num keyType + 1 := by
          have hroom := mt hdiff.mpr hgap
          omega
        have hrestMax : ∀ y ∈ next :: rest, y.num keyType ≤ maxKey.toNat :=
          fun y hy => hmax y (List.mem_cons_of_mem _ hy)
        cases ih hsplit.2 hrestMax (pos + 1) with
        | inl hfree =>
            obtain ⟨key, n, hfind, hrest, hlow, hhigh, htaken⟩ := hfree
            refine .inl ⟨key, n + 1, by rw [hfind]; congr 2; omega, hrest.cons hlow,
              by omega, hhigh, ?_⟩
            intro j hjlow hjhigh
            by_cases hj : j = next.num keyType
            · exact ⟨next, List.mem_cons_self, hj.symm⟩
            · obtain ⟨y, hy, hykey⟩ := htaken j (by omega) hjhigh
              exact ⟨y, List.mem_cons_of_mem _ hy, hykey⟩
        | inr hfull =>
            refine .inr ⟨hfull.1, ?_⟩
            intro j hjlow hjhigh
            by_cases hj : j = next.num keyType
            · exact ⟨next, List.mem_cons_self, hj.symm⟩
            · obtain ⟨y, hy, hykey⟩ := hfull.2 j (by omega) hjhigh
              exact ⟨y, List.mem_cons_of_mem _ hy, hykey⟩

theorem inRange_iff {m : Mapper} {key : BitVec 32} :
    m.inRange keyType key = true ↔
      (m.minKey keyType).toNat ≤ key.toNat ∧ key.toNat ≤ (m.maxKey keyType).toNat := by
  rw [inRange, Bool.and_eq_true, decide_eq_true_eq, decide_eq_true_eq]
  exact Iff.rfl

/-- The lowest key of the range that no pair has. -/
structure LowestFree (m : Mapper) (keyType : MapperKeyType) (key : BitVec 32) : Prop where
  inRange : m.inRange keyType key = true
  free : ∀ item ∈ m.list keyType, item.key keyType ≠ key
  lowest : ∀ smaller, m.inRange keyType smaller = true → smaller < key →
    ∃ item ∈ m.list keyType, item.key keyType = smaller

def Full (m : Mapper) (keyType : MapperKeyType) : Prop :=
  ∀ key, m.inRange keyType key = true → ∃ item ∈ m.list keyType, item.key keyType = key

/-- The two lists hold the same pairs, each in the order of its key, within the declared
ranges. -/
structure WellFormed (m : Mapper) : Prop where
  bounds : ∀ keyType, (m.minKey keyType).toNat ≤ (m.maxKey keyType).toNat
  range : ∀ keyType, ∀ item ∈ m.list keyType, m.inRange keyType (item.key keyType) = true
  ascending : ∀ keyType, Ascending (MapperItem.num keyType) (m.list keyType)
  same : ∀ first second, (m.list first).Perm (m.list second)

namespace WellFormed

variable {m : Mapper}

variable {item : MapperItem}

theorem mem_iff (h : m.WellFormed) (first second : MapperKeyType) :
    item ∈ m.list first ↔ item ∈ m.list second :=
  (h.same first second).mem_iff

theorem eq_of_key_eq (h : m.WellFormed) (keyType : MapperKeyType) {list : MapperKeyType}
    {other : MapperItem} (hitem : item ∈ m.list list) (hother : other ∈ m.list list)
    (hkey : item.key keyType = other.key keyType) : item = other :=
  (h.ascending keyType).eq_of_key_eq ((h.mem_iff list keyType).mp hitem)
    ((h.mem_iff list keyType).mp hother) (congrArg BitVec.toNat hkey)

theorem init {entry : MapperEntry} (hid : entry.minId ≤ entry.maxId)
    (hidx : entry.minIdx ≤ entry.maxIdx) : (Mapper.init entry).WellFormed where
  bounds keyType := by
    cases keyType with
    | id => exact hid
    | index => exact hidx
  range keyType item hitem := by cases hitem
  ascending _ := .nil
  same _ _ := .refl _

/-- `free_key_find` finds the gap for the lowest free key, if there is one. -/
theorem freeKeyFind_cases (h : m.WellFormed) (keyType : MapperKeyType) :
    (∃ key n, m.freeKeyFind keyType = some (key, n) ∧
      Gap (MapperItem.num keyType) key.toNat (m.list keyType) n ∧ m.LowestFree keyType key) ∨
    (m.freeKeyFind keyType = none ∧ m.Full keyType) := by
  have hasc := h.ascending keyType
  have hrange := h.range keyType
  have hbounds := h.bounds keyType
  have hmin : m.inRange keyType (m.minKey keyType) = true :=
    inRange_iff.mpr ⟨le_refl _, hbounds⟩
  have hlowest : ∀ smaller, m.inRange keyType smaller = true → ¬ smaller < m.minKey keyType :=
    fun smaller hsmaller hlt => absurd (inRange_iff.mp hsmaller).1 (Nat.not_le.mpr hlt)
  rw [freeKeyFind, Full]
  cases hlist : m.list keyType with
  | nil =>
      refine .inl ⟨_, 0, rfl, .front fun y hy => (by cases hy), hmin, ?_, ?_⟩
      · intro item hitem
        rw [hlist] at hitem
        cases hitem
      · intro smaller hsmaller hlt
        exact absurd hlt (hlowest smaller hsmaller)
  | cons head rest =>
      rw [hlist] at hasc hrange
      have hsplit := List.pairwise_cons.mp hasc
      have hhead := inRange_iff.mp (hrange head List.mem_cons_self)
      have hle : (m.minKey keyType).toNat ≤ head.num keyType := hhead.1
      have hfirst : 0 < head.key keyType - m.minKey keyType ↔
          (m.minKey keyType).toNat < head.num keyType := by
        rw [MapperItem.num] at hle ⊢
        bv_omega
      dsimp only
      by_cases hfree : 0 < head.key keyType - m.minKey keyType
      · rw [if_pos hfree]
        have hbelow : ∀ y ∈ head :: rest, (m.minKey keyType).toNat < y.num keyType := by
          intro y hy
          cases List.mem_cons.mp hy with
          | inl hsame => exact hsame ▸ hfirst.mp hfree
          | inr hrest => exact lt_of_le_of_lt hle (hsplit.1 y hrest)
        refine .inl ⟨_, 0, rfl, .front hbelow, hmin, ?_, ?_⟩
        · intro item hitem hkey
          rw [hlist] at hitem
          exact absurd (congrArg BitVec.toNat hkey) (hbelow item hitem).ne'
        · intro smaller hsmaller hlt
          exact absurd hlt (hlowest smaller hsmaller)
      · rw [if_neg hfree]
        have hsame : head.num keyType = (m.minKey keyType).toNat := by
          have hnot := mt hfirst.mpr hfree
          omega
        have hmax : ∀ y ∈ head :: rest, y.num keyType ≤ (m.maxKey keyType).toNat :=
          fun y hy => (inRange_iff.mp (hrange y hy)).2
        cases freeKeyAfter_cases hasc hmax 1 with
        | inl hfound =>
            obtain ⟨key, n, hfind, hgap, hlow, hhigh, htaken⟩ := hfound
            have hgap' := hgap.cons hlow
            refine .inl ⟨key, n + 1, by rw [hfind, Nat.add_comm], hgap',
              inRange_iff.mpr ⟨by omega, hhigh⟩, ?_, ?_⟩
            · intro item hitem hkey
              rw [hlist] at hitem
              exact hgap'.ne hitem (congrArg BitVec.toNat hkey)
            · intro smaller hsmaller hlt
              rw [hlist]
              have hsmallerMin := (inRange_iff.mp hsmaller).1
              have hlt' : smaller.toNat < key.toNat := hlt
              by_cases hhere : smaller.toNat = head.num keyType
              · exact ⟨head, List.mem_cons_self, num_inj hhere.symm⟩
              · obtain ⟨y, hy, hykey⟩ := htaken smaller.toNat (by omega) hlt'
                exact ⟨y, List.mem_cons_of_mem _ hy, num_inj hykey⟩
        | inr hfull =>
            refine .inr ⟨hfull.1, ?_⟩
            intro key hkey
            have hkey' := inRange_iff.mp hkey
            by_cases hhere : key.toNat = head.num keyType
            · exact ⟨head, List.mem_cons_self, num_inj hhere.symm⟩
            · obtain ⟨y, hy, hykey⟩ := hfull.2 key.toNat (by omega) hkey'.2
              exact ⟨y, List.mem_cons_of_mem _ hy, num_inj hykey⟩

variable {pos : MapperKeyType → Nat}

theorem itemAdd (h : m.WellFormed) (hrange : ∀ keyType, m.inRange keyType (item.key keyType) = true)
    (hgap : ∀ keyType, Gap (MapperItem.num keyType) (item.num keyType) (m.list keyType)
      (pos keyType)) : (m.itemAdd pos item).WellFormed where
  bounds := h.bounds
  range keyType other hother := by
    cases List.eq_or_mem_of_mem_insertIdx hother with
    | inl hnew => exact hnew ▸ hrange keyType
    | inr hold => exact h.range keyType other hold
  ascending keyType := (h.ascending keyType).insertIdx (hgap keyType)
  same first second :=
    (h.same first second).insertIdx_of_le (hgap first).le_length (hgap second).le_length item

theorem mem_itemAdd {other : MapperItem} (hpos : pos keyType ≤ (m.list keyType).length) :
    other ∈ (m.itemAdd pos item).list keyType ↔ other = item ∨ other ∈ m.list keyType :=
  List.mem_insertIdx hpos

theorem itemRemove (h : m.WellFormed)
    (hplace : ∀ keyType, (m.list keyType)[pos keyType]? = some item) :
    (m.itemRemove pos).WellFormed where
  bounds := h.bounds
  range keyType other hother := h.range keyType other (List.mem_of_mem_eraseIdx hother)
  ascending keyType := (h.ascending keyType).sublist (List.eraseIdx_sublist _ _)
  same first second := by
    have hperm : ∀ keyType,
        (item :: (m.list keyType).eraseIdx (pos keyType)).Perm (m.list keyType) := by
      intro keyType
      have hitem := List.getElem?_eq_some_iff.mp (hplace keyType)
      rw [← hitem.2]
      exact List.getElem_cons_eraseIdx_perm hitem.1
    exact (((hperm first).trans (h.same first second)).trans (hperm second).symm).cons_inv

/-- The pairs after a removal. -/
theorem mem_itemRemove (h : m.WellFormed) {other : MapperItem}
    (hplace : (m.list keyType)[pos keyType]? = some item) :
    other ∈ (m.itemRemove pos).list keyType ↔ other ∈ m.list keyType ∧ other ≠ item := by
  have hitem := List.getElem?_eq_some_iff.mp hplace
  have hperm := List.getElem_cons_eraseIdx_perm hitem.1
  rw [hitem.2] at hperm
  have hnodup := hperm.nodup_iff.mpr (h.ascending keyType).nodup
  rw [← hperm.mem_iff, List.mem_cons]
  constructor
  · intro hother
    refine ⟨.inr hother, ?_⟩
    rintro rfl
    exact (List.nodup_cons.mp hnodup).1 hother
  · rintro ⟨hsame | hother, hne⟩
    · exact absurd hsame hne
    · exact hother

end WellFormed

end Mapper

end FalconGpon.Api
