/-
# The users of the DSCP profiles

What is to hold of the profiles (`DscpCtx.ProfilesRight`), as counts of the mappers that use
them, and what `dscp_profile_create` does to them.
-/

import FalconGpon.Api.DscpProfiles
import FalconGpon.Lib.Sharing

namespace FalconGpon.Api

open FalconGpon.Lib

namespace DscpCtx

/-! ## What is to hold -/

def derives (ctx : DscpCtx) (k : Fin 32) : Bool :=
  (ctx.pmapper k).valid && (ctx.pmapper k).unmarkedFrameOption == 0

def profile (ctx : DscpCtx) (k : Fin 32) : Fin 8 := (ctx.pmapper k).dscpTablePointer.toFin

/-- The profile has the P-bits of a map, in the context and in the hardware table. -/
structure Translates (ctx : DscpCtx) (i : Fin 8) (dscpPrioMap : DscpPrioMap) : Prop where
  pcp : ∀ group, ctx.pcp i group = (dscpGroup dscpPrioMap group).setWidth 8
  hardware : ∀ group : Fin 64,
    (ctx.dscpDecoding (64 * i + group)).pcp = dscpGroup dscpPrioMap group

/-- The profiles are as they should be. A profile without a count has no map. -/
structure ProfilesRight (ctx : DscpCtx) : Prop where
  existing : ∀ k, (ctx.pmapper k).valid = true ↔ ∃ id index,
    ctx.mapper.Mapped MapperIdType.dot1pmapperMeidToIdx id index ∧ pmapperEntry index = k
  count : ∀ i, ctx.refCount i ≠ 0 → (ctx.refCount i).toNat =
    (Finset.univ.filter fun k => ctx.derives k = true ∧ ctx.given k = ctx.dscpPrioMap i).card
  used : ∀ k, ctx.derives k = true → ctx.refCount (ctx.profile k) ≠ 0 ∧
    ctx.dscpPrioMap (ctx.profile k) = ctx.given k ∧ ctx.Translates (ctx.profile k) (ctx.given k)
  shared : ∀ i j, ctx.refCount i ≠ 0 → ctx.refCount j ≠ 0 →
    ctx.dscpPrioMap i = ctx.dscpPrioMap j → i = j

def NoProfile (ctx : DscpCtx) (dscpPrioMap : DscpPrioMap) : Prop :=
  ∀ i, ctx.refCount i ≠ 0 ∧ ctx.dscpPrioMap i ≠ dscpPrioMap

def slot (ctx : DscpCtx) (k : Fin 32) : Option (Fin 8) :=
  if ctx.derives k then some (ctx.profile k) else none

end DscpCtx

/-! ## Maps -/

theorem dscpBit_eq (dscpPrioMap : DscpPrioMap) {bit : Nat} (hbit : bit < 192) :
    dscpBit dscpPrioMap bit = dscpPrioMap.getLsbD (191 - bit) := by
  have hbyte : (dscpPrioByte dscpPrioMap (bit / 8)).getLsbD (7 - bit % 8) =
      dscpPrioMap.getLsbD (191 - bit) := by
    have hlt : 7 - bit % 8 < 8 := by omega
    have hindex : 8 * (23 - bit / 8) + (7 - bit % 8) = 191 - bit := by omega
    rw [dscpPrioByte, BitVec.getLsbD_extractLsb', decide_eq_true hlt, Bool.true_and, hindex]
  rw [← hbyte, dscpBit]
  generalize dscpPrioByte dscpPrioMap (bit / 8) = octet
  have hmod : bit % 8 < 8 := Nat.mod_lt _ (by decide)
  generalize bit % 8 = place at hmod
  revert octet place
  decide +kernel

/-- `map2pcp` takes successive groups. -/
theorem map2pcp_eq (dscpPrioMap : DscpPrioMap) (group : Fin 64) :
    map2pcp dscpPrioMap group = (dscpGroup dscpPrioMap group).setWidth 8 := by
  have hgroup := group.isLt
  have hbit : ∀ i < 3, (dscpGroup dscpPrioMap group).getLsbD i =
      dscpBit dscpPrioMap (group * 3 + (2 - i)) := by
    intro i hi
    rw [dscpBit_eq _ (by omega), dscpGroup, BitVec.getLsbD_extractLsb', decide_eq_true hi,
      Bool.true_and]
    congr 1
    omega
  have hfirst : dscpBit dscpPrioMap (group * 3) = (dscpGroup dscpPrioMap group).getLsbD 2 :=
    (hbit 2 (by decide)).symm
  have hsecond : dscpBit dscpPrioMap (group * 3 + 1) = (dscpGroup dscpPrioMap group).getLsbD 1 :=
    (hbit 1 (by decide)).symm
  have hthird : dscpBit dscpPrioMap (group * 3 + 2) = (dscpGroup dscpPrioMap group).getLsbD 0 :=
    (hbit 0 (by decide)).symm
  rw [map2pcp, if_neg (by omega), hfirst, hsecond, hthird]
  clear hbit hfirst hsecond hthird
  generalize dscpGroup dscpPrioMap group = bits
  revert bits
  decide

/-! ## The search for a profile -/

namespace DscpCtx

variable {ctx : DscpCtx}

/-- What `dscp_profile_create` comes to. -/
inductive ProfileOutcome (ctx : DscpCtx) (dscpPrioMap : DscpPrioMap) : DscpCtx × Nat → Prop
  | shared (i : Fin 8) (huse : ctx.refCount i ≠ 0) (hmap : ctx.dscpPrioMap i = dscpPrioMap) :
      ProfileOutcome ctx dscpPrioMap
        ({ ctx with refCount := Function.update ctx.refCount i (ctx.refCount i + 1) }, i)
  | taken (i : Fin 8) (hfree : ctx.refCount i = 0)
      (hnew : ∀ other, ctx.refCount other ≠ 0 → ctx.dscpPrioMap other ≠ dscpPrioMap) :
      ProfileOutcome ctx dscpPrioMap
        ({ ctx with
          refCount := Function.update ctx.refCount i 1
          dscpPrioMap := Function.update ctx.dscpPrioMap i dscpPrioMap
          pcp := Function.update ctx.pcp i fun group => map2pcp dscpPrioMap group }, i)
  | none (hnone : ctx.NoProfile dscpPrioMap) : ProfileOutcome ctx dscpPrioMap (ctx, 255)

/-- What the loop finds. -/
theorem dscpProfileFind_cases (dscpPrioMap : DscpPrioMap) (profiles : List (Fin 8))
    (idx : Option (Fin 8)) (hidx : ∀ i, idx = some i → ctx.refCount i = 0) :
    (∃ i free, ctx.dscpProfileFind dscpPrioMap profiles idx = (some i, free) ∧
      ctx.refCount i ≠ 0 ∧ ctx.dscpPrioMap i = dscpPrioMap) ∨
    (∃ free, ctx.dscpProfileFind dscpPrioMap profiles idx = (none, free) ∧
      (∀ i ∈ profiles, ctx.refCount i ≠ 0 → ctx.dscpPrioMap i ≠ dscpPrioMap) ∧
      (∀ i, free = some i → ctx.refCount i = 0) ∧
      (free = none → idx = none ∧ ∀ i ∈ profiles, ctx.refCount i ≠ 0)) := by
  induction profiles generalizing idx with
  | nil => exact Or.inr ⟨idx, rfl, nofun, hidx, fun hnone => ⟨hnone, nofun⟩⟩
  | cons i profiles ih =>
      rw [dscpProfileFind]
      by_cases hfree : ctx.refCount i = 0
      · rw [if_pos hfree]
        have hidx' : ∀ other, idx.or (some i) = some other → ctx.refCount other = 0 := by
          intro other hother
          cases idx with
          | none =>
              obtain rfl := Option.some.inj hother
              exact hfree
          | some first => exact hidx other hother
        refine (ih _ hidx').imp_right fun hnone => ?_
        obtain ⟨free, hfind, hnew, hfreeCount, hempty⟩ := hnone
        refine ⟨free, hfind, fun other hother => ?_, hfreeCount, fun hnone => ?_⟩
        · rcases List.mem_cons.mp hother with rfl | hmem
          · exact fun huse => absurd hfree huse
          · exact hnew other hmem
        · have hor := (hempty hnone).1
          cases idx <;> cases hor
      · rw [if_neg hfree]
        by_cases hmap : dscpPrioMap = ctx.dscpPrioMap i
        · rw [if_pos hmap]
          exact Or.inl ⟨i, idx, rfl, hfree, hmap.symm⟩
        · rw [if_neg hmap]
          refine (ih idx hidx).imp_right fun hnone => ?_
          obtain ⟨free, hfind, hnew, hfreeCount, hempty⟩ := hnone
          refine ⟨free, hfind, fun other hother => ?_, hfreeCount, fun hnone => ?_⟩
          · rcases List.mem_cons.mp hother with rfl | hmem
            · exact fun _ hsame => hmap hsame.symm
            · exact hnew other hmem
          · obtain ⟨hidxNone, huse⟩ := hempty hnone
            refine ⟨hidxNone, fun other hother => ?_⟩
            rcases List.mem_cons.mp hother with rfl | hmem
            · exact hfree
            · exact huse other hmem

theorem dscpProfileCreate_outcome (ctx : DscpCtx) (dscpPrioMap : DscpPrioMap) :
    ProfileOutcome ctx dscpPrioMap (ctx.dscpProfileCreate dscpPrioMap) := by
  rw [dscpProfileCreate]
  rcases dscpProfileFind_cases dscpPrioMap (List.finRange 8) none nofun with hfound | hnone
  · obtain ⟨i, free, hfind, huse, hmap⟩ := hfound
    rw [hfind]
    exact .shared i huse hmap
  · obtain ⟨free, hfind, hnew, hfree, hempty⟩ := hnone
    rw [hfind]
    cases free with
    | some i => exact .taken i (hfree i rfl) fun other => hnew other (List.mem_finRange other)
    | none =>
        have huse := (hempty rfl).2
        refine .none fun i => ⟨huse i (List.mem_finRange i), ?_⟩
        exact hnew i (List.mem_finRange i) (huse i (List.mem_finRange i))

/-! ## The users of the profiles -/

def counts (ctx : DscpCtx) (i : Fin 8) : Nat := (ctx.refCount i).toNat

theorem counts_ne_zero {i : Fin 8} : ctx.counts i ≠ 0 ↔ ctx.refCount i ≠ 0 := by
  rw [counts, ne_eq, ne_eq, ← BitVec.toNat_inj]
  exact Iff.rfl

theorem slot_eq_some {k : Fin 32} {i : Fin 8} :
    ctx.slot k = some i ↔ ctx.derives k = true ∧ ctx.profile k = i := by
  rw [slot]
  split
  · rename_i hderives
    rw [Option.some.injEq]
    exact (and_iff_right hderives).symm
  · rename_i hderives
    exact iff_of_false nofun fun hboth => hderives hboth.1

def OwnMaps (ctx : DscpCtx) : Prop :=
  ∀ k i, ctx.slot k = some i → ctx.dscpPrioMap i = ctx.given k ∧ ctx.Translates i (ctx.given k)

def Shared (ctx : DscpCtx) : Prop :=
  ∀ i j, ctx.refCount i ≠ 0 → ctx.refCount j ≠ 0 → ctx.dscpPrioMap i = ctx.dscpPrioMap j → i = j

def Existing (ctx : DscpCtx) : Prop :=
  ∀ k, (ctx.pmapper k).valid = true ↔ ∃ id index,
    ctx.mapper.Mapped MapperIdType.dot1pmapperMeidToIdx id index ∧ pmapperEntry index = k

/-- Where mappers have their own maps and share them, those with the map of a profile are those
that use it. -/
theorem users_slot_eq (hown : ctx.OwnMaps) (hshared : ctx.Shared)
    (huse : ∀ k, ctx.derives k = true → ctx.refCount (ctx.profile k) ≠ 0) {i : Fin 8}
    (hi : ctx.refCount i ≠ 0) :
    users ctx.slot i =
      Finset.univ.filter fun k => ctx.derives k = true ∧ ctx.given k = ctx.dscpPrioMap i := by
  ext k
  rw [mem_users, slot_eq_some, Finset.mem_filter]
  simp only [Finset.mem_univ, true_and, and_congr_right_iff]
  intro hderives
  obtain ⟨hmap, -⟩ := hown k _ (slot_eq_some.mpr ⟨hderives, rfl⟩)
  constructor
  · rintro rfl
    exact hmap.symm
  · intro hgiven
    exact hshared _ _ (huse k hderives) hi (hmap.trans hgiven)

/-- The counts are the numbers of users. -/
theorem profilesRight_iff : ctx.ProfilesRight ↔
    ctx.Existing ∧ Counted ctx.slot ctx.counts ∧ ctx.OwnMaps ∧ ctx.Shared := by
  constructor
  · intro h
    have hown : ctx.OwnMaps := by
      intro k i hslot
      obtain ⟨hderives, rfl⟩ := slot_eq_some.mp hslot
      exact (h.used k hderives).2
    refine ⟨h.existing, fun i => ?_, hown, h.shared⟩
    by_cases hi : ctx.refCount i = 0
    · -- nobody uses a profile without a count
      have hempty : users ctx.slot i = ∅ := by
        apply Finset.eq_empty_of_forall_notMem
        intro k hk
        obtain ⟨hderives, rfl⟩ := slot_eq_some.mp (mem_users.mp hk)
        exact (h.used k hderives).1 hi
      rw [counts, hi, hempty]
      rfl
    · rw [users_slot_eq hown h.shared (fun k hderives => (h.used k hderives).1) hi]
      exact h.count i hi
  · rintro ⟨hexisting, hcounted, hown, hshared⟩
    have huse : ∀ k, ctx.derives k = true → ctx.refCount (ctx.profile k) ≠ 0 := by
      intro k hderives
      exact counts_ne_zero.mp (hcounted.ne_zero_iff.mpr ⟨k, slot_eq_some.mpr ⟨hderives, rfl⟩⟩)
    refine ⟨hexisting, fun i hi => ?_, fun k hderives => ?_, hshared⟩
    swap
    · exact ⟨huse k hderives, hown k _ (slot_eq_some.mpr ⟨hderives, rfl⟩)⟩
    rw [← users_slot_eq hown hshared huse hi]
    exact hcounted i

theorem translates_of_use (hcounted : Counted ctx.slot ctx.counts) (hown : ctx.OwnMaps) {i : Fin 8}
    (hi : ctx.refCount i ≠ 0) : ctx.Translates i (ctx.dscpPrioMap i) := by
  obtain ⟨k, hk⟩ := hcounted.ne_zero_iff.mp (counts_ne_zero.mpr hi)
  obtain ⟨hmap, htranslates⟩ := hown k i hk
  rw [hmap]
  exact htranslates

/-! ## What a request does to the users -/

theorem slot_of_pmapper {ctx' : DscpCtx} {k : Fin 32} {entry : GpePmapper}
    (hpmapper : ctx'.pmapper = Function.update ctx.pmapper k entry) :
    ctx'.slot = Function.update ctx.slot k
      (if (entry.valid && entry.unmarkedFrameOption == 0) = true then
        some entry.dscpTablePointer.toFin
      else none) := by
  funext other
  by_cases hother : other = k
  · subst hother
    rw [Function.update_self, slot, derives, profile, hpmapper, Function.update_self]
  · rw [Function.update_of_ne hother, slot, slot, derives, derives, profile, profile, hpmapper,
      Function.update_of_ne hother]

/-- A mapper takes a profile: a free one, or the one with its map. -/
def take (ctx : DscpCtx) (i : Fin 8) (dscpPrioMap : DscpPrioMap) : DscpCtx :=
  { ctx with
    refCount := Function.update ctx.refCount i (ctx.refCount i + 1)
    dscpPrioMap := Function.update ctx.dscpPrioMap i dscpPrioMap
    pcp := Function.update ctx.pcp i fun group => map2pcp dscpPrioMap group }

/-- The profile can be taken. -/
structure Takes (ctx : DscpCtx) (i : Fin 8) (dscpPrioMap : DscpPrioMap) : Prop where
  same : ctx.refCount i ≠ 0 → ctx.dscpPrioMap i = dscpPrioMap
  others : ∀ other ≠ i, ctx.refCount other ≠ 0 → ctx.dscpPrioMap other ≠ dscpPrioMap

/-- `dscp_profile_create` takes a profile, or there is none. -/
theorem dscpProfileCreate_takes (hcounted : Counted ctx.slot ctx.counts) (hown : ctx.OwnMaps)
    (hshared : ctx.Shared) (dscpPrioMap : DscpPrioMap) :
    (∃ i, ctx.dscpProfileCreate dscpPrioMap = (ctx.take i dscpPrioMap, i.val) ∧
      ctx.Takes i dscpPrioMap) ∨
    (ctx.dscpProfileCreate dscpPrioMap = (ctx, 255) ∧ ctx.NoProfile dscpPrioMap) := by
  have houtcome := ctx.dscpProfileCreate_outcome dscpPrioMap
  generalize ctx.dscpProfileCreate dscpPrioMap = result at houtcome ⊢
  cases houtcome with
  | shared i huse hmap =>
      left
      refine ⟨i, ?_, fun _ => hmap, fun other hother hother' hsame => ?_⟩
      · -- nothing but the count changes
        have hpcp : ctx.pcp i = fun group : Fin 64 => map2pcp dscpPrioMap group := by
          funext group
          rw [map2pcp_eq, ← hmap]
          exact (translates_of_use hcounted hown huse).pcp group
        rw [take, ← hpcp, ← hmap, Function.update_eq_self, Function.update_eq_self]
      · exact hother (hshared other i hother' huse (hsame.trans hmap.symm))
  | taken i hfree hnew =>
      left
      refine ⟨i, ?_, fun huse => absurd hfree huse, fun other _ => hnew other⟩
      rw [take, hfree]
      rfl
  | none hnone => exact Or.inr ⟨rfl, hnone⟩

theorem counts_take (hcounted : Counted ctx.slot ctx.counts) (i : Fin 8)
    (dscpPrioMap : DscpPrioMap) (j : Fin 8) :
    (ctx.take i dscpPrioMap).counts j = ctx.counts j + if i = j then 1 else 0 := by
  rw [counts, take]
  dsimp only
  by_cases hj : i = j
  · subst hj
    have hle : ctx.counts i ≤ 32 := hcounted.le_card i
    rw [counts] at hle
    rw [Function.update_self, if_pos rfl, BitVec.toNat_add, counts]
    exact Nat.mod_eq_of_lt (show _ + 1 < 2 ^ 8 by omega)
  · rw [Function.update_of_ne (Ne.symm hj), if_neg hj]
    rfl

end DscpCtx

end FalconGpon.Api
