/-
# Runs of updates and destroys of 802.1p mappers

An update takes a profile, but does not give back the one the mapper had; a destroy gives back
the one that the mapper's entry points to, which is the first one for mappers that use none;
and an update that finds no profile succeeds.

`dscpProfiles_iff`: the profiles are counted, shared and filled as they should be throughout a
run exactly if every request meets `DscpGuard`.
-/

import FalconGpon.Api.DscpUsers

namespace FalconGpon.Api

open FalconGpon.Lib

/-- A request leaves the profiles as they should be, does not overwrite one in use, and is refused
if it finds none. -/
structure DscpRight (before : DscpCtx) (event : DscpEvent) (after : DscpCtx) : Prop where
  right : after.ProfilesRight
  kept : ∀ i, before.refCount i ≠ 0 →
    after.dscpPrioMap i = before.dscpPrioMap i ∧ after.pcp i = before.pcp i
  refused : ∀ update, event = .update update → update.unmarkedFrameOpt = 0 →
    before.NoProfile update.dscpPrioMap → (before.run event).2 ≠ .success

/-- An update for DSCP comes for a mapper that uses no profile and finds one, and one for the
default P-bits comes for a mapper that uses none. Options above one that the hardware takes for
DSCP leave the mapper with the first profile and its map. A destroy comes for a mapper that
uses a profile, or while the profile that its entry points to is free. -/
def DscpGuard (ctx : DscpCtx) : DscpEvent → Prop
  | .update update => update.tpPointerType = 0 →
      ∀ index, (ctx.updateIndex update).2 = .ok index →
        if update.unmarkedFrameOpt = 0 then
          ctx.slot (pmapperEntry index) = none ∧ ¬ctx.NoProfile update.dscpPrioMap
        else if update.unmarkedFrameOpt.setWidth 1 = (0 : BitVec 1) then
          ctx.slot (pmapperEntry index) = some 0 ∧ ctx.dscpPrioMap 0 = update.dscpPrioMap
        else ctx.slot (pmapperEntry index) = none
  | .destroy meId => ∀ index,
      ctx.mapper.Mapped MapperIdType.dot1pmapperMeidToIdx (meId.setWidth 32) index →
        ctx.slot (pmapperEntry index) = none → ctx.refCount (ctx.profile (pmapperEntry index)) = 0

namespace DscpCtx

variable {ctx : DscpCtx}

/-! ## What holds throughout a run -/

/-- The mapper has indices below 32 for all MEs. -/
def Ranged (ctx : DscpCtx) : Prop :=
  ∃ m, ctx.mapper.mapperGet MapperIdType.dot1pmapperMeidToIdx = some m ∧
    (∀ meId : BitVec 16, m.inRange .id (meId.setWidth 32) = true) ∧
      ∀ index, m.inRange .index index = true → index.toNat < 32

structure Holds (ctx : DscpCtx) : Prop where
  wellFormed : ctx.mapper.WellFormed
  ranged : ctx.Ranged
  right : ctx.ProfilesRight

theorem Ranged.of_sameRanges {mapper : Mappers} (h : ctx.Ranged)
    (hranges : ctx.mapper.SameRanges mapper) : Ranged { ctx with mapper := mapper } := by
  obtain ⟨m, hget, hid, hindex⟩ := h
  obtain ⟨m', hget', hsame⟩ := hranges _ m hget
  refine ⟨m', hget', fun meId => (hsame _ _).trans (hid meId), fun index hrange => ?_⟩
  exact hindex index ((hsame _ _).symm.trans hrange)

theorem Holds.index_lt (h : ctx.Holds) {id index : BitVec 32}
    (hmapped : ctx.mapper.Mapped MapperIdType.dot1pmapperMeidToIdx id index) :
    index.toNat < 32 := by
  obtain ⟨m, hget, -, hindex⟩ := h.ranged
  have hm := h.wellFormed.of_mapperGet hget
  have hmem := (hm.mem_iff .id .index).mp ((Mappers.mapped_iff_mem hget).mp hmapped)
  exact hindex index (hm.range .index _ hmem)

theorem pmapperEntry_inj {index index' : BitVec 32} (hlt : index.toNat < 32)
    (hlt' : index'.toNat < 32) (h : pmapperEntry index = pmapperEntry index') : index = index' := by
  have hval := congrArg Fin.val h
  simp only [pmapperEntry, Fin.val_ofNat, Nat.mod_eq_of_lt hlt, Nat.mod_eq_of_lt hlt'] at hval
  exact BitVec.eq_of_toNat_eq hval

/-- The index that an update is for: it fails and changes nothing, or the mapper has it. -/
theorem Holds.updateIndex_cases (h : ctx.Holds) (update : MapperUpdate) :
    (∃ ret ≠ .success, ctx.updateIndex update = (ctx.mapper, .error ret)) ∨
    ∃ mapper index, ctx.updateIndex update = (mapper, .ok index) ∧ mapper.WellFormed ∧
      ctx.mapper.SameRanges mapper ∧
      ∀ id index', mapper.Mapped MapperIdType.dot1pmapperMeidToIdx id index' ↔
        (id = update.meId.setWidth 32 ∧ index' = index) ∨
          ctx.mapper.Mapped MapperIdType.dot1pmapperMeidToIdx id index' := by
  rw [updateIndex]
  rcases h.wellFormed.indexGet_cases MapperIdType.dot1pmapperMeidToIdx
    (update.meId.setWidth 32) with hfound | ⟨hcode, hnone⟩
  · obtain ⟨index, hget, hmapped⟩ := hfound
    rw [hget]
    refine Or.inr ⟨ctx.mapper, index, rfl, h.wellFormed, .refl _, fun id index' => ?_⟩
    refine (or_iff_right_of_imp ?_).symm
    rintro ⟨rfl, rfl⟩
    exact hmapped
  · -- the id is in range, so it is not found
    have hnotFound : ctx.mapper.indexGet MapperIdType.dot1pmapperMeidToIdx
        (update.meId.setWidth 32) = .code .notFound := by
      obtain ⟨m, hget, hid, -⟩ := h.ranged
      have hm := h.wellFormed.of_mapperGet hget
      have hnew : ∀ item ∈ m.list .id, item.key .id ≠ update.meId.setWidth 32 := by
        intro item hitem hkey
        apply hnone item.index
        rw [Mappers.mapped_iff_mem hget, ← hkey]
        exact hitem
      obtain ⟨pos, hfind, -⟩ := Mapper.itemFind_of_new (hm.ascending .id) hnew
      rw [Mappers.indexGet, Mappers.keyGet, Mappers.keyVerify_of_mapperGet hget (hid _)]
      dsimp only
      rw [hfind]
    rw [hnotFound]
    dsimp only [MapperReply.code]
    have hranges := Mappers.sameRanges_idMap ctx.mapper MapperIdType.dot1pmapperMeidToIdx
      (update.meId.setWidth 32) update.mem
    rcases Mappers.mapped_idMap_cases h.wellFormed MapperIdType.dot1pmapperMeidToIdx
      (update.meId.setWidth 32) update.mem with ⟨hret, hsame⟩ | hadded
    · left
      generalize ctx.mapper.idMap _ _ _ = result at hret hsame
      obtain ⟨mapper, reply⟩ := result
      obtain rfl : mapper = ctx.mapper := hsame
      split
      · rename_i heq
        exact absurd (congrArg MapperReply.ret (Prod.mk.inj heq).2) hret
      · rename_i heq
        obtain ⟨rfl, rfl⟩ := Prod.mk.inj heq
        exact ⟨_, hret, rfl⟩
    · right
      obtain ⟨m, index, -, hfound, hwell, -, -, hpairs⟩ := hadded
      generalize ctx.mapper.idMap _ _ _ = result at hfound hwell hpairs hranges
      obtain ⟨mapper, reply⟩ := result
      obtain rfl : reply = .found index := hfound
      refine ⟨mapper, index, rfl, hwell, hranges, fun id index' => ?_⟩
      have hpair := hpairs MapperIdType.dot1pmapperMeidToIdx id index'
      rw [eq_self_iff_true, true_and] at hpair
      exact hpair

/-! ## An update -/

section Update

variable {update : MapperUpdate} {mapper : Mappers} {index : BitVec 32}

/-- The update is accepted, and this is the index of its mapper. -/
structure Accepts (ctx : DscpCtx) (update : MapperUpdate) (mapper : Mappers) (index : BitVec 32) :
    Prop where
  type : update.tpPointerType = 0
  found : ctx.updateIndex update = (mapper, .ok index)
  pairs : ∀ id index', mapper.Mapped MapperIdType.dot1pmapperMeidToIdx id index' ↔
    (id = update.meId.setWidth 32 ∧ index' = index) ∨
      ctx.mapper.Mapped MapperIdType.dot1pmapperMeidToIdx id index'

/-- An update is refused and changes nothing, or accepted. -/
theorem Holds.mapperUpdate_cases (h : ctx.Holds) (update : MapperUpdate) :
    (∃ ret ≠ .success, ctx.mapperUpdate update = (ctx, ret) ∧
      (update.tpPointerType = 0 → ∀ index, (ctx.updateIndex update).2 ≠ .ok index)) ∨
    ∃ mapper index, ctx.Accepts update mapper index ∧ mapper.WellFormed ∧
      ctx.mapper.SameRanges mapper := by
  by_cases htype : update.tpPointerType = 0
  · rcases h.updateIndex_cases update with ⟨ret, hret, hfails⟩ | hfound
    · left
      rw [mapperUpdate, if_neg (not_not.mpr htype), hfails]
      exact ⟨ret, hret, rfl, fun _ _ => nofun⟩
    · obtain ⟨mapper, index, hindex, hwell, hranges, hpairs⟩ := hfound
      exact Or.inr ⟨mapper, index, ⟨htype, hindex, hpairs⟩, hwell, hranges⟩
  · left
    rw [mapperUpdate, if_pos htype]
    exact ⟨.error, nofun, rfl, fun htype' => absurd htype' htype⟩

/-- The mappers with an entry after it. -/
theorem Existing.updated {ctx' : DscpCtx} {entry : GpePmapper} (h : ctx.Existing)
    (hpmapper : ctx'.pmapper = Function.update ctx.pmapper (pmapperEntry index) entry)
    (hentry : entry.valid = true) {id : BitVec 32} (hpairs : ∀ id' index',
      ctx'.mapper.Mapped MapperIdType.dot1pmapperMeidToIdx id' index' ↔
        (id' = id ∧ index' = index) ∨
          ctx.mapper.Mapped MapperIdType.dot1pmapperMeidToIdx id' index') : ctx'.Existing := by
  intro k
  rw [hpmapper]
  by_cases hk : k = pmapperEntry index
  · subst hk
    rw [Function.update_self]
    refine iff_of_true hentry ⟨id, index, ?_, rfl⟩
    exact (hpairs id index).mpr (Or.inl ⟨rfl, rfl⟩)
  · rw [Function.update_of_ne hk, h k]
    constructor
    · rintro ⟨id', index', hmapped, hindex⟩
      exact ⟨id', index', (hpairs id' index').mpr (Or.inr hmapped), hindex⟩
    · rintro ⟨id', index', hmapped, hindex⟩
      rcases (hpairs id' index').mp hmapped with ⟨rfl, rfl⟩ | hold
      · exact absurd hindex.symm hk
      · exact ⟨id', index', hold, hindex⟩

theorem guard_update_iff (haccepts : ctx.Accepts update mapper index) :
    DscpGuard ctx (.update update) ↔
      if update.unmarkedFrameOpt = 0 then
        ctx.slot (pmapperEntry index) = none ∧ ¬ctx.NoProfile update.dscpPrioMap
      else if update.unmarkedFrameOpt.setWidth 1 = (0 : BitVec 1) then
        ctx.slot (pmapperEntry index) = some 0 ∧ ctx.dscpPrioMap 0 = update.dscpPrioMap
      else ctx.slot (pmapperEntry index) = none := by
  constructor
  · intro hguard
    exact hguard haccepts.type index (congrArg Prod.snd haccepts.found)
  · intro hguard _ index' hindex'
    rw [haccepts.found] at hindex'
    obtain rfl := Except.ok.inj hindex'
    exact hguard

theorem slot_pmapperAdd {ctx' profiled : DscpCtx} {gpix : Fin 8 → BitVec 32}
    {opt marking : BitVec 8} {i : Fin 8} (hpmapper : profiled.pmapper = ctx.pmapper)
    (hadd : ctx'.pmapper = (profiled.omciApiPmapperAdd index gpix opt marking i).pmapper) :
    ctx'.slot = Function.update ctx.slot (pmapperEntry index)
      (if opt.setWidth 1 = (0 : BitVec 1) then some i else none) := by
  have hpointer : (BitVec.ofNat 3 i.val).toFin = i :=
    Fin.ext (Nat.mod_eq_of_lt (show i.val < 2 ^ 3 from i.isLt))
  rw [omciApiPmapperAdd, hpmapper] at hadd
  rw [slot_of_pmapper hadd]
  simp only [Bool.true_and, beq_iff_eq, hpointer]

/-- The context after an update that is accepted, from the one after `update_profile`. -/
structure Written (ctx profiled : DscpCtx) (update : MapperUpdate) (mapper : Mappers)
    (index : BitVec 32) (i : Fin 8) (ctx' : DscpCtx) : Prop where
  mapper : ctx'.mapper = mapper
  existing : ctx'.Existing
  slot : ctx'.slot = Function.update ctx.slot (pmapperEntry index)
    (if update.unmarkedFrameOpt.setWidth 1 = (0 : BitVec 1) then some i else none)
  given : ctx'.given = Function.update ctx.given (pmapperEntry index) update.dscpPrioMap
  refCount : ctx'.refCount = profiled.refCount
  dscpPrioMap : ctx'.dscpPrioMap = profiled.dscpPrioMap
  pcp : ctx'.pcp = profiled.pcp
  dscpDecoding : ctx'.dscpDecoding = profiled.dscpDecoding

theorem mapperUpdate_written {profiled : DscpCtx} {i : Fin 8} (hexisting : ctx.Existing)
    (haccepts : ctx.Accepts update mapper index)
    (hprofile : { ctx with mapper := mapper }.updateProfile update = (profiled, i.val))
    (hmapper : profiled.mapper = mapper) (hpmapper : profiled.pmapper = ctx.pmapper)
    (hgiven : profiled.given = ctx.given) :
    (ctx.mapperUpdate update).2 = .success ∧
      Written ctx profiled update mapper index i (ctx.mapperUpdate update).1 := by
  rw [mapperUpdate, if_neg (not_not.mpr haccepts.type), haccepts.found]
  dsimp only
  rw [hprofile]
  subst hmapper
  refine ⟨rfl, rfl, ?_, slot_pmapperAdd hpmapper rfl, ?_, rfl, rfl, rfl, rfl⟩
  · exact hexisting.updated (congrArg (Function.update · _ _) hpmapper) rfl haccepts.pairs
  · exact congrArg (Function.update · _ _) hgiven

/-- The profiles after a mapper took none of its own accord. -/
theorem right_stay {ctx' : DscpCtx} {k : Fin 32} {now : Option (Fin 8)}
    {dscpPrioMap : DscpPrioMap} (hexisting' : ctx'.Existing)
    (hcounted : Counted ctx.slot ctx.counts) (hown : ctx.OwnMaps) (hshared : ctx.Shared)
    (hslot : ctx'.slot = Function.update ctx.slot k now)
    (hgiven : ctx'.given = Function.update ctx.given k dscpPrioMap)
    (hcount : ctx'.refCount = ctx.refCount) (hmaps : ctx'.dscpPrioMap = ctx.dscpPrioMap)
    (hpcp : ctx'.pcp = ctx.pcp) (hdecoding : ctx'.dscpDecoding = ctx.dscpDecoding) :
    ctx'.ProfilesRight ↔
      ctx.slot k = now ∧ ∀ i, now = some i → ctx.dscpPrioMap i = dscpPrioMap := by
  have htranslates : ∀ i map, ctx'.Translates i map ↔ ctx.Translates i map := by
    intro i map
    constructor
    · intro h
      exact ⟨hpcp ▸ h.pcp, hdecoding ▸ h.hardware⟩
    · intro h
      exact ⟨hpcp ▸ h.pcp, hdecoding ▸ h.hardware⟩
  have hcounts : ctx'.counts = ctx.counts := by
    funext i
    rw [counts, counts, hcount]
  have hshared' : ctx'.Shared := by
    rw [Shared, hcount, hmaps]
    exact hshared
  rw [profilesRight_iff, hslot, hcounts, hcounted.update_same_iff]
  constructor
  · rintro ⟨-, hstays, hown', -⟩
    refine ⟨hstays, fun i hi => ?_⟩
    have hmap := (hown' k i (by rw [hslot, Function.update_self, hi])).1
    rwa [hgiven, Function.update_self, hmaps] at hmap
  · rintro ⟨hstays, hmap⟩
    refine ⟨hexisting', hstays, fun other i hother => ?_, hshared'⟩
    rw [hmaps, htranslates, hgiven]
    rw [hslot] at hother
    by_cases hk : other = k
    · subst hk
      rw [Function.update_self] at hother ⊢
      have huse : ctx.refCount i ≠ 0 :=
        counts_ne_zero.mp (hcounted.ne_zero_iff.mpr ⟨other, hstays.trans hother⟩)
      have hsame := hmap i hother
      have htrans := translates_of_use hcounted hown huse
      rw [hsame] at htrans
      exact ⟨hsame, htrans⟩
    · rw [Function.update_of_ne hk] at hother ⊢
      exact hown other i hother

/-- The profiles after a mapper took one. -/
theorem right_take {ctx' : DscpCtx} {k : Fin 32} {i : Fin 8} {dscpPrioMap : DscpPrioMap}
    (hexisting' : ctx'.Existing) (hcounted : Counted ctx.slot ctx.counts) (hown : ctx.OwnMaps)
    (hshared : ctx.Shared) (htakes : ctx.Takes i dscpPrioMap)
    (hslot : ctx'.slot = Function.update ctx.slot k (some i))
    (hgiven : ctx'.given = Function.update ctx.given k dscpPrioMap)
    (hcount : ctx'.refCount = (ctx.take i dscpPrioMap).refCount)
    (hmaps : ctx'.dscpPrioMap = (ctx.take i dscpPrioMap).dscpPrioMap)
    (hpcp : ctx'.pcp = (ctx.take i dscpPrioMap).pcp) (hdecoding : ctx'.dscpDecoding =
      (ctx.omciApiDscpProfileAdd i fun group => map2pcp dscpPrioMap group).dscpDecoding) :
    ctx'.ProfilesRight ↔ ctx.slot k = none := by
  have hcounts : ∀ j, ctx'.counts j = ctx.counts j + if i = j then 1 else 0 := by
    intro j
    rw [← counts_take hcounted i dscpPrioMap j, counts, hcount, counts]
  have hnew : ctx'.dscpPrioMap i = dscpPrioMap := by
    rw [hmaps]
    exact Function.update_self ..
  have hold : ∀ j ≠ i, ctx'.dscpPrioMap j = ctx.dscpPrioMap j := by
    intro j hj
    rw [hmaps]
    exact Function.update_of_ne hj ..
  have htranslates : ctx'.Translates i dscpPrioMap := by
    refine ⟨fun group => ?_, fun group => ?_⟩
    · rw [hpcp, take, ← map2pcp_eq]
      exact congrFun (Function.update_self i _ ctx.pcp) group
    · have hprofile : (64 * i.val + group.val) / 64 = i := by omega
      have hplace : Fin.ofNat 64 (64 * i.val + group.val) = group := by
        apply Fin.ext
        rw [Fin.val_ofNat]
        omega
      rw [hdecoding, omciApiDscpProfileAdd]
      dsimp only
      rw [if_pos hprofile, hplace, map2pcp_eq, BitVec.setWidth_setWidth_of_le _ (by decide)]
      exact BitVec.setWidth_eq _
  have hothers : ∀ j ≠ i, ∀ map, ctx.Translates j map → ctx'.Translates j map := by
    intro j hj map htrans
    refine ⟨fun group => ?_, fun group => ?_⟩
    · rw [hpcp, take, ← htrans.pcp group]
      exact congrFun (Function.update_of_ne hj _ ctx.pcp) group
    · have hprofile : ¬(64 * j.val + group.val) / 64 = i := by
        intro hsame
        exact hj (Fin.ext (by omega))
      rw [hdecoding, omciApiDscpProfileAdd]
      dsimp only
      rw [if_neg hprofile]
      exact htrans.hardware group
  have hown' : ctx'.OwnMaps := by
    intro other j hother
    rw [hslot] at hother
    rw [hgiven]
    by_cases hk : other = k
    · subst hk
      rw [Function.update_self] at hother ⊢
      obtain rfl := Option.some.inj hother
      exact ⟨hnew, htranslates⟩
    · rw [Function.update_of_ne hk] at hother ⊢
      obtain ⟨hmap, htrans⟩ := hown other j hother
      by_cases hj : j = i
      · -- the profile was in use, with the same map
        subst hj
        have huse := counts_ne_zero.mp (hcounted.ne_zero_iff.mpr ⟨other, hother⟩)
        have hsame := htakes.same huse
        rw [← hmap, hsame]
        exact ⟨hnew, htranslates⟩
      · exact ⟨(hold j hj).trans hmap, hothers j hj _ htrans⟩
  have huse : ∀ j ≠ i, ctx'.refCount j ≠ 0 → ctx.refCount j ≠ 0 := by
    intro j hj hne
    rw [hcount, take] at hne
    dsimp only at hne
    rwa [Function.update_of_ne hj] at hne
  have hshared' : ctx'.Shared := by
    intro a b ha hb hsame
    by_cases hai : a = i
    · by_cases hbi : b = i
      · exact hai.trans hbi.symm
      · rw [hai, hnew, hold b hbi] at hsame
        exact absurd hsame.symm (htakes.others b hbi (huse b hbi hb))
    · by_cases hbi : b = i
      · rw [hbi, hnew, hold a hai] at hsame
        exact absurd hsame (htakes.others a hai (huse a hai ha))
      · rw [hold a hai, hold b hbi] at hsame
        exact hshared a b (huse a hai ha) (huse b hbi hb) hsame
  rw [profilesRight_iff, hslot, hcounted.update_take_iff k hcounts]
  constructor
  · rintro ⟨-, hnone, -, -⟩
    exact hnone
  · intro hnone
    exact ⟨hexisting', hnone, hown', hshared'⟩

theorem OwnMaps.withMapper (h : ctx.OwnMaps) (mapper : Mappers) :
    OwnMaps { ctx with mapper := mapper } := by
  intro k i hslot
  obtain ⟨hmap, htranslates⟩ := h k i hslot
  exact ⟨hmap, htranslates.pcp, htranslates.hardware⟩

/-- An update for DSCP that finds a profile. -/
theorem Holds.update_take_iff (h : ctx.Holds) {i : Fin 8}
    (haccepts : ctx.Accepts update mapper index)
    (hopt : update.unmarkedFrameOpt = 0)
    (hcreate : dscpProfileCreate { ctx with mapper := mapper } update.dscpPrioMap =
      (take { ctx with mapper := mapper } i update.dscpPrioMap, i.val))
    (htakes : ctx.Takes i update.dscpPrioMap) :
    (ctx.mapperUpdate update).1.mapper = mapper ∧
      (DscpRight ctx (.update update) (ctx.mapperUpdate update).1 ↔
        DscpGuard ctx (.update update)) := by
  obtain ⟨hexisting, hcounted, hown, hshared⟩ := profilesRight_iff.mp h.right
  have hpcp : (take { ctx with mapper := mapper } i update.dscpPrioMap).pcp i =
      fun group : Fin 64 => map2pcp update.dscpPrioMap group := Function.update_self ..
  have hprofile : { ctx with mapper := mapper }.updateProfile update =
      ((take { ctx with mapper := mapper } i update.dscpPrioMap).omciApiDscpProfileAdd i
        fun group => map2pcp update.dscpPrioMap group, i.val) := by
    rw [updateProfile, if_pos hopt, hcreate]
    dsimp only
    rw [dif_pos i.isLt, ← hpcp]
  have hfinds : ¬ctx.NoProfile update.dscpPrioMap := by
    intro hnone
    exact (hnone i).2 (htakes.same (hnone i).1)
  obtain ⟨-, hwritten⟩ :=
    mapperUpdate_written hexisting haccepts hprofile rfl rfl rfl
  rw [guard_update_iff haccepts, if_pos hopt, and_iff_left hfinds]
  refine ⟨hwritten.mapper, ?_⟩
  have hslot := hwritten.slot
  rw [hopt, if_pos (show BitVec.setWidth 1 (0 : BitVec 8) = 0 from rfl)] at hslot
  rw [← right_take hwritten.existing hcounted hown hshared htakes hslot hwritten.given
    hwritten.refCount hwritten.dscpPrioMap hwritten.pcp hwritten.dscpDecoding]
  constructor
  · exact fun hright => hright.right
  · intro hright
    refine ⟨hright, fun j huse => ?_, ?_⟩
    · rw [hwritten.dscpPrioMap, hwritten.pcp]
      by_cases hj : j = i
      · -- it has the map already
        subst hj
        refine ⟨?_, ?_⟩
        · exact (Function.update_self ..).trans (htakes.same huse).symm
        · refine hpcp.trans ?_
          funext group
          rw [map2pcp_eq, ← htakes.same huse]
          exact ((translates_of_use hcounted hown huse).pcp group).symm
      · exact ⟨Function.update_of_ne hj .., Function.update_of_ne hj ..⟩
    · intro update' hupdate' _ hnone
      obtain rfl := DscpEvent.update.inj hupdate'
      exact absurd hnone hfinds

/-- An update for DSCP that finds no profile is not refused. -/
theorem update_none_iff (haccepts : ctx.Accepts update mapper index)
    (hopt : update.unmarkedFrameOpt = 0)
    (hcreate : dscpProfileCreate { ctx with mapper := mapper } update.dscpPrioMap =
      ({ ctx with mapper := mapper }, 255))
    (hnone : ctx.NoProfile update.dscpPrioMap) :
    (ctx.mapperUpdate update).1.mapper = mapper ∧
      (DscpRight ctx (.update update) (ctx.mapperUpdate update).1 ↔
        DscpGuard ctx (.update update)) := by
  have hupdate : (ctx.mapperUpdate update).2 = .success ∧
      (ctx.mapperUpdate update).1.mapper = mapper := by
    rw [mapperUpdate, if_neg (not_not.mpr haccepts.type), haccepts.found]
    dsimp only
    rw [updateProfile, if_pos hopt, hcreate]
    exact ⟨rfl, rfl⟩
  rw [guard_update_iff haccepts, if_pos hopt]
  refine ⟨hupdate.2, iff_of_false ?_ ?_⟩
  · intro hright
    exact hright.refused update rfl hopt hnone hupdate.1
  · intro hguard
    exact hguard.2 hnone

/-- An update for other options. -/
theorem Holds.update_stay_iff (h : ctx.Holds) (haccepts : ctx.Accepts update mapper index)
    (hopt : update.unmarkedFrameOpt ≠ 0) : (ctx.mapperUpdate update).1.mapper = mapper ∧
      (DscpRight ctx (.update update) (ctx.mapperUpdate update).1 ↔
        DscpGuard ctx (.update update)) := by
  obtain ⟨hexisting, hcounted, hown, hshared⟩ := profilesRight_iff.mp h.right
  have hprofile : { ctx with mapper := mapper }.updateProfile update =
      ({ ctx with mapper := mapper }, (0 : Fin 8).val) := by
    rw [updateProfile, if_neg hopt]
    rfl
  obtain ⟨-, hwritten⟩ :=
    mapperUpdate_written hexisting haccepts hprofile rfl rfl rfl
  refine ⟨hwritten.mapper, ?_⟩
  have hstay := right_stay hwritten.existing hcounted hown hshared hwritten.slot hwritten.given
    hwritten.refCount hwritten.dscpPrioMap hwritten.pcp hwritten.dscpDecoding
  have hright : DscpRight ctx (.update update) (ctx.mapperUpdate update).1 ↔
      (ctx.mapperUpdate update).1.ProfilesRight := by
    constructor
    · exact fun hright => hright.right
    · intro hright
      refine ⟨hright, fun j _ => ?_, ?_⟩
      · exact ⟨congrFun hwritten.dscpPrioMap j, congrFun hwritten.pcp j⟩
      · intro update' hupdate' hopt'
        obtain rfl := DscpEvent.update.inj hupdate'
        exact absurd hopt' hopt
  rw [hright, hstay, guard_update_iff haccepts, if_neg hopt]
  split
  · simp only [Option.some.injEq, forall_eq']
  · exact and_iff_left nofun

/-- An update keeps the profiles right exactly if it meets the guard. -/
theorem Holds.update_iff (h : ctx.Holds) (update : MapperUpdate) :
    ((ctx.mapperUpdate update).1.mapper.WellFormed ∧ (ctx.mapperUpdate update).1.Ranged) ∧
      (DscpRight ctx (.update update) (ctx.mapperUpdate update).1 ↔
        DscpGuard ctx (.update update)) := by
  rcases h.mapperUpdate_cases update with ⟨ret, hret, hsame, hrefused⟩ | haccepted
  · rw [hsame]
    refine ⟨⟨h.wellFormed, h.ranged⟩, iff_of_true ⟨h.right, fun _ _ => ⟨rfl, rfl⟩, ?_⟩ ?_⟩
    · intro update' hupdate' _ _
      obtain rfl := DscpEvent.update.inj hupdate'
      rw [run, hsame]
      exact hret
    · exact fun htype index hindex => absurd hindex (hrefused htype index)
  · obtain ⟨mapper, index, haccepts, hwell, hranges⟩ := haccepted
    suffices hboth : (ctx.mapperUpdate update).1.mapper = mapper ∧
        (DscpRight ctx (.update update) (ctx.mapperUpdate update).1 ↔
          DscpGuard ctx (.update update)) by
      refine ⟨?_, hboth.2⟩
      rw [Ranged, hboth.1]
      exact ⟨hwell, h.ranged.of_sameRanges hranges⟩
    by_cases hopt : update.unmarkedFrameOpt = 0
    · obtain ⟨-, hcounted, hown, hshared⟩ := profilesRight_iff.mp h.right
      rcases @dscpProfileCreate_takes { ctx with mapper := mapper } hcounted
        (hown.withMapper mapper) hshared update.dscpPrioMap with
        ⟨i, hcreate, htakes⟩ | ⟨hcreate, hnone⟩
      · exact h.update_take_iff haccepts hopt hcreate ⟨htakes.same, htakes.others⟩
      · exact update_none_iff haccepts hopt hcreate hnone
    · exact h.update_stay_iff haccepts hopt

end Update

/-! ## A destroy -/

section Destroy

variable {meId : BitVec 16} {index : BitVec 32}

theorem dscpProfileDelete_eq (ctx : DscpCtx) (i : Fin 8) :
    ctx.dscpProfileDelete i = { ctx with refCount := (ctx.dscpProfileDelete i).refCount } := by
  rw [dscpProfileDelete]
  split <;> rfl

/-- A destroy deletes the profile of the mapper's entry, the entry, and the index. -/
theorem mapperDestroy_eq
    (hfound : ctx.mapper.indexGet MapperIdType.dot1pmapperMeidToIdx (meId.setWidth 32) =
      .found index)
    (hvalid : (ctx.pmapper (pmapperEntry index)).valid = true) :
    (ctx.mapperDestroy meId).1 =
      { ctx with
        refCount := (ctx.dscpProfileDelete (ctx.profile (pmapperEntry index))).refCount
        pmapper := Function.update ctx.pmapper (pmapperEntry index) .void
        mapper := (ctx.mapper.indexRemove MapperIdType.dot1pmapperMeidToIdx index).1 } := by
  rw [mapperDestroy, hfound]
  dsimp only [MapperReply.found]
  rw [if_pos hvalid]
  have hdelete := ctx.dscpProfileDelete_eq (ctx.profile (pmapperEntry index))
  rw [profile] at hdelete
  rw [hdelete]
  rfl

/-- A profile's count goes down unless it is zero. -/
theorem counts_dscpProfileDelete (ctx : DscpCtx) (i j : Fin 8) :
    (ctx.dscpProfileDelete i).counts j = ctx.counts j - if i = j then 1 else 0 := by
  rw [dscpProfileDelete, counts, counts]
  by_cases hzero : ctx.refCount i = 0
  · rw [if_neg (not_not.mpr hzero)]
    split
    · rename_i hij
      rw [← hij, hzero]
      rfl
    · rfl
  · rw [if_pos hzero]
    dsimp only
    by_cases hij : i = j
    · subst hij
      have hpos : (ctx.refCount i).toNat ≠ 0 := counts_ne_zero.mpr hzero
      rw [Function.update_self, if_pos rfl, BitVec.toNat_sub_of_le]
      · rfl
      · exact BitVec.le_def.mpr (Nat.one_le_iff_ne_zero.mpr hpos)
    · rw [Function.update_of_ne (Ne.symm hij), if_neg hij, Nat.sub_zero]

/-- A destroy of a mapper that exists. -/
theorem Holds.destroy_iff_of_mapped (h : ctx.Holds)
    (hmapped : ctx.mapper.Mapped MapperIdType.dot1pmapperMeidToIdx (meId.setWidth 32) index) :
    ((ctx.mapperDestroy meId).1.mapper.WellFormed ∧ (ctx.mapperDestroy meId).1.Ranged) ∧
      (DscpRight ctx (.destroy meId) (ctx.mapperDestroy meId).1 ↔
        DscpGuard ctx (.destroy meId)) := by
  obtain ⟨hexisting, hcounted, hown, hshared⟩ := profilesRight_iff.mp h.right
  have hvalid := (hexisting (pmapperEntry index)).mpr ⟨_, index, hmapped, rfl⟩
  have hdestroy :=
    mapperDestroy_eq ((Mappers.indexGet_eq_found_iff h.wellFormed).mpr hmapped) hvalid
  generalize (ctx.mapperDestroy meId).1 = ctx' at hdestroy ⊢
  have hslot : ctx'.slot = Function.update ctx.slot (pmapperEntry index) none := by
    rw [hdestroy]
    exact @slot_of_pmapper ctx _ _ .void rfl
  have hcounts : ∀ j, ctx'.counts j =
      ctx.counts j - if ctx.profile (pmapperEntry index) = j then 1 else 0 := by
    intro j
    rw [hdestroy, ← counts_dscpProfileDelete]
    rfl
  have huses : ∀ j, ctx.slot (pmapperEntry index) = some j →
      ctx.profile (pmapperEntry index) = j := by
    intro j hj
    exact (slot_eq_some.mp hj).2
  have hown' : ctx'.OwnMaps := by
    intro k i hk
    rw [hslot] at hk
    have hne : k ≠ pmapperEntry index := by
      rintro rfl
      rw [Function.update_self] at hk
      cases hk
    rw [Function.update_of_ne hne] at hk
    obtain ⟨hmap, htranslates⟩ := hown k i hk
    rw [hdestroy]
    exact ⟨hmap, htranslates.pcp, htranslates.hardware⟩
  have hshared' : ctx'.Shared := by
    have huse : ∀ i, ctx'.refCount i ≠ 0 → ctx.refCount i ≠ 0 := by
      intro i hi
      rw [← counts_ne_zero] at hi ⊢
      have hle := hcounts i
      omega
    have hmaps : ctx'.dscpPrioMap = ctx.dscpPrioMap := by rw [hdestroy]
    intro i j hi hj hsame
    rw [hmaps] at hsame
    exact hshared i j (huse i hi) (huse j hj) hsame
  have hremove : ctx'.mapper = (ctx.mapper.keyRemove MapperIdType.dot1pmapperMeidToIdx .index
      index).1 := by
    rw [hdestroy]
    rfl
  have hranges := Mappers.sameRanges_keyRemove ctx.mapper MapperIdType.dot1pmapperMeidToIdx .index
    index
  rcases Mappers.mapped_keyRemove h.wellFormed MapperIdType.dot1pmapperMeidToIdx .index index with
    ⟨-, -, habsent⟩ | ⟨-, hwell, -, hpairs⟩
  · exact absurd rfl (habsent _ _ hmapped)
  rw [← hremove] at hranges hwell hpairs
  refine ⟨⟨hwell, h.ranged.of_sameRanges hranges⟩, ?_⟩
  have hexisting' : ctx'.Existing := by
    intro k
    have hentry : (ctx'.pmapper k).valid = true ↔
        k ≠ pmapperEntry index ∧ (ctx.pmapper k).valid = true := by
      rw [hdestroy]
      dsimp only
      by_cases hk : k = pmapperEntry index
      · rw [hk, Function.update_self]
        exact iff_of_false nofun fun hboth => hboth.1 rfl
      · rw [Function.update_of_ne hk]
        exact (and_iff_right hk).symm
    rw [hentry, hexisting k]
    constructor
    · rintro ⟨hk, id, index', hmapped', hindex⟩
      refine ⟨id, index', (hpairs _ _ _).mpr ⟨hmapped', ?_⟩, hindex⟩
      rintro ⟨-, rfl⟩
      exact hk hindex.symm
    · rintro ⟨id, index', hmapped', rfl⟩
      obtain ⟨hold, hother⟩ := (hpairs _ _ _).mp hmapped'
      refine ⟨fun hsame => hother ⟨rfl, ?_⟩, id, index', hold, rfl⟩
      exact pmapperEntry_inj (h.index_lt hold) (h.index_lt hmapped) hsame
  have hright : ctx'.ProfilesRight ↔ (ctx.slot (pmapperEntry index) = none →
      ctx.refCount (ctx.profile (pmapperEntry index)) = 0) := by
    have hzero : ctx.counts (ctx.profile (pmapperEntry index)) = 0 ↔
        ctx.refCount (ctx.profile (pmapperEntry index)) = 0 := not_iff_not.mp counts_ne_zero
    rw [← hzero, ← hcounted.update_drop_iff (pmapperEntry index) hcounts huses, ← hslot,
      profilesRight_iff]
    constructor
    · rintro ⟨-, hcounted', -, -⟩
      exact hcounted'
    · intro hcounted'
      exact ⟨hexisting', hcounted', hown', hshared'⟩
  constructor
  · intro hafter index' hmapped'
    rw [← hmapped.index_unique h.wellFormed hmapped']
    exact hright.mp hafter.right
  · intro hguard
    refine ⟨hright.mpr (hguard index hmapped), fun i _ => ?_, nofun⟩
    rw [hdestroy]
    exact ⟨rfl, rfl⟩

theorem Holds.destroy_iff (h : ctx.Holds) (meId : BitVec 16) :
    ((ctx.mapperDestroy meId).1.mapper.WellFormed ∧ (ctx.mapperDestroy meId).1.Ranged) ∧
      (DscpRight ctx (.destroy meId) (ctx.mapperDestroy meId).1 ↔
        DscpGuard ctx (.destroy meId)) := by
  rcases h.wellFormed.indexGet_cases MapperIdType.dot1pmapperMeidToIdx (meId.setWidth 32) with
    ⟨index, -, hmapped⟩ | ⟨⟨ret, hret, hcode⟩, hnone⟩
  · exact h.destroy_iff_of_mapped hmapped
  · have hsame : (ctx.mapperDestroy meId).1 = ctx := by
      rw [mapperDestroy, hcode]
      cases ret <;> rfl
    rw [hsame]
    refine ⟨⟨h.wellFormed, h.ranged⟩, iff_of_true ⟨h.right, fun _ _ => ⟨rfl, rfl⟩, nofun⟩ ?_⟩
    exact fun index hmapped => absurd hmapped (hnone index)

end Destroy

end DscpCtx

/-! ## Runs -/

theorem DscpCtx.holds_init (maxBridgePort : BitVec 32) (dscpDecoding : Nat → GpeDscpDecoding) :
    (DscpCtx.init maxBridgePort dscpDecoding).Holds where
  wellFormed := Mappers.wellFormed_init maxBridgePort
  ranged := by
    refine ⟨Mapper.init ⟨MapperIdType.dot1pmapperMeidToIdx, 1, 0, 0xffff, 0, 31⟩, rfl, ?_, ?_⟩
    · intro meId
      have hle : meId.setWidth 32 ≤ (0xffff : BitVec 32) := by bv_omega
      rw [Mapper.inRange, Bool.and_eq_true]
      exact ⟨decide_eq_true (Nat.zero_le _), decide_eq_true hle⟩
    · intro index hrange
      rw [Mapper.inRange, Bool.and_eq_true] at hrange
      have hle : index ≤ (31 : BitVec 32) := of_decide_eq_true hrange.2
      exact Nat.lt_succ_of_le (BitVec.le_def.mp hle)
  right := by
    refine ⟨fun k => iff_of_false (fun h => by cases h) ?_, fun _ hcount => absurd rfl hcount,
      (fun _ hderives => by cases hderives), fun _ _ hcount => absurd rfl hcount⟩
    rintro ⟨id, index, hmapped, -⟩
    exact Mappers.not_mapped_init maxBridgePort hmapped

/-- In a run of updates and destroys from start-up, the profiles are counted, shared and filled as
they should be exactly if every request meets the guard. -/
theorem dscpProfiles_iff (maxBridgePort : BitVec 32) (dscpDecoding : Nat → GpeDscpDecoding)
    (events : List DscpEvent) :
    Along dscpStep DscpRight (.init maxBridgePort dscpDecoding) events ↔
      Along dscpStep (fun before event _ => DscpGuard before event)
        (.init maxBridgePort dscpDecoding) events := by
  refine along_iff_guard ?_ (DscpCtx.holds_init maxBridgePort dscpDecoding) events
  intro before event after hbefore hstep
  obtain rfl := Option.some.inj hstep
  suffices hrun : ((before.run event).1.mapper.WellFormed ∧ (before.run event).1.Ranged) ∧
      (DscpRight before event (before.run event).1 ↔ DscpGuard before event) by
    refine ⟨hrun.2, fun hguard => ?_⟩
    exact ⟨hrun.1.1, hrun.1.2, (hrun.2.mpr hguard).right⟩
  cases event with
  | update update => exact hbefore.update_iff update
  | destroy meId => exact hbefore.destroy_iff meId

/-- An update of a mapper without GEM ports, for a DSCP map of zeros. -/
def zeroMapUpdate : MapperUpdate where
  meId := 1
  gemPortId _ := 0xffff
  unmarkedFrameOpt := 0
  dscpPrioMap := 0
  defaultPriorityMarking := 0
  tpPointerType := 0
  mem := true
  pmapperIndex := 0

/-- A second update of a mapper counts it twice. -/
theorem dscpProfiles_updatedTwice :
    ¬∀ (maxBridgePort : BitVec 32) (dscpDecoding : Nat → GpeDscpDecoding) (events : List DscpEvent),
      Along dscpStep DscpRight (.init maxBridgePort dscpDecoding) events := by
  intro h
  have hrun := h 8 (fun _ => ⟨0, 0, 0⟩) [.update zeroMapUpdate, .update zeroMapUpdate]
  have hright := hrun.2.1.right
  have hcount := hright.count 0
  revert hcount
  decide +kernel

end FalconGpon.Api
