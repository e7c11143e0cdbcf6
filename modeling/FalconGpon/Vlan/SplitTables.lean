/-
# The split in the tables

What the split is meant to do: a rule of a collision group with a mapper configured for its place
goes to the shadow table of this mapper and any other rule to the table of the ME, each once; no
other tables change, and the shadow tables are those of the groups there are now.

The code gets there as long as every group fits the file, the mappers have one rule each, and
rules that are deleted have nothing to do with the split.
-/

import FalconGpon.Vlan.Accepting
import FalconGpon.Vlan.Refinement

namespace FalconGpon.Vlan

open FalconGpon.Lib Program Vlan.Gpe
open FalconGpon.Omci (OmciError)

/-- The mapper that the file has for the VID at place `v` of a group; 0 if there is none. -/
def DualVlanConfig.configured (config : DualVlanConfig) (v : Nat) (vid : BitVec 13) : BitVec 16 :=
  if config.isAuto then (config.entries[v]?.map (·.2)).getD 0
  else ((config.entries.find? (·.1 = vid.setWidth 16)).map (·.2)).getD 0

namespace SetContext

variable (env : SetContext)

def places (sorted : List RxVlanOperTable) : List (Nat × Nat × BitVec 13) :=
  (env.groups sorted).zipIdx.flatMap fun group =>
    group.1.filterVids.zipIdx.map fun vid => (group.2, vid.2, vid.1)

def splitMappers (sorted : List RxVlanOperTable) : List (BitVec 16) :=
  ((env.places sorted).map fun place =>
    (env.config sorted).configured place.2.1 place.2.2).filter (· ≠ 0)

/-- The mapper whose table a rule belongs to; 0 for the table of the ME itself. -/
def destination (sorted : List RxVlanOperTable) (e : RxVlanOperTable) : BitVec 16 :=
  match collisionOf (env.groups sorted) e with
  | some place => (env.config sorted).configured place.2 e.filterInnerVid
  | none => 0

def ownRows (sorted : List RxVlanOperTable) (e : RxVlanOperTable) : List GpeEntry :=
  if env.destination sorted e = 0 then dsRows env e else []

def shadowRows (sorted : List RxVlanOperTable) (mapper : BitVec 16) (e : RxVlanOperTable) :
    List GpeEntry :=
  if env.destination sorted e = mapper then (image true (env.dsFilter e)).toList else []

def named : List (BitVec 16) :=
  (readDualVlanConfig env.file).entries.map (·.2)

end SetContext

/-- A SET of a rule, a default one or not, that is answered with success. -/
def splitStep (env : SetContext) (s : ExtVlanMe × Gpe) (set : RxVlanOperTable × Bool) :
    Option (ExtVlanMe × Gpe) :=
  let result := tableSet env set.1 set.2 s.1 s.2
  if result.1 = .success then some result.2 else none

abbrev ExtVlanMe.rules (env : SetContext) (me : ExtVlanMe) : List RxVlanOperTable :=
  me.oper.sortArray env.vendor

/-- Every rule is in the table it belongs to, once; the shadow tables are those of the groups, and
only mappers named in the file have any. -/
structure SplitSound (env : SetContext) (start : Gpe) (s : ExtVlanMe × Gpe) : Prop where
  own : s.2.rules true env.id = (s.1.rules env).flatMap (env.ownRows (s.1.rules env))
  shadow : ∀ mapper ∈ env.named, mapper ≠ env.id → s.2.table true mapper =
    if mapper ∈ env.splitMappers (s.1.rules env) then
      some ((s.1.rules env).flatMap (env.shadowRows (s.1.rules env) mapper))
    else none
  others : ∀ id ∉ env.named, id ≠ env.id → s.2.table true id = start.table true id

/-- The rules, the file and the mapper MEs are such that a new rule can be programmed. -/
structure SplitFits (env : SetContext) (sorted : List RxVlanOperTable) (g : Gpe) : Prop where
  /-- The mapper at each place is set from the file. -/
  assigned : ∀ place ∈ env.places sorted,
    mapperMeId (env.config sorted) env.stack place.1 place.2.1 place.2.2 =
      (env.config sorted).configured place.2.1 place.2.2
  /-- All shadow tables can be recorded. -/
  room : (env.splitMappers sorted).length ≤ maxShadowDsTables
  exist : ∀ mapper ∈ env.splitMappers sorted, g.pmapper mapper = true
  own : env.id ∉ env.splitMappers sorted
  /-- No shadow table needs a second row. -/
  single : ∀ mapper ∈ env.splitMappers sorted,
    (sorted.flatMap (env.shadowRows sorted mapper)).length ≤ 1
  /-- What is split off has an upstream translation. -/
  upstream : ∀ e ∈ sorted, env.destination sorted e ≠ 0 →
    image true (env.dsFilter e) ≠ none → image false e.filter ≠ none
  ownOneDefault : (sorted.flatMap (env.ownRows sorted)).Pairwise fun old new =>
    ¬SameDefault new old
  ownImages : env.vendor = .alcl →
    ∀ e ∈ sorted, env.destination sorted e = 0 → (image true (env.dsFilter e)).isSome

/-- A rule is deleted that is not split off and leaves the split as it is, and its index is its
row. -/
structure LeavesSplit (env : SetContext) (sorted : List RxVlanOperTable)
    (old : RxVlanOperTableEntry) : Prop where
  places : env.splitMappers (sorted.erase old.data) = env.splitMappers sorted
  destinations : ∀ e ∈ sorted.erase old.data,
    env.destination (sorted.erase old.data) e = env.destination sorted e
  ownRow : OwnRow (env.ownRows sorted) sorted old.data old.idx
  unsplit : env.destination sorted old.data = 0

/-- What a SET must meet for the split to stay sound. -/
structure SplitGuard (env : SetContext) (s : ExtVlanMe × Gpe) (set : RxVlanOperTable × Bool) :
    Prop where
  delete : set.1.isDelete = true →
    ∀ old ∈ s.1.oper.list, old.data.key = set.1.key → LeavesSplit env (s.1.rules env) old
  add : set.1.isDelete = false → SplitFits env (env.rulesAfter set.1 set.2 s.1) s.2

section Agree

variable {env : SetContext} {sorted : List RxVlanOperTable} {g : Gpe}

/-- A configured mapper stands in the file. -/
theorem DualVlanConfig.configured_mem {config : DualVlanConfig} {v : Nat} {vid : BitVec 13}
    (h : config.configured v vid ≠ 0) : config.configured v vid ∈ config.entries.map (·.2) := by
  have hentry : ∀ found : Option (BitVec 16 × BitVec 16), (∀ x ∈ found, x ∈ config.entries) →
      (found.map (·.2)).getD 0 ≠ 0 →
        (found.map (·.2)).getD 0 ∈ config.entries.map (·.2) := by
    intro found hfound hne
    cases found with
    | none => exact absurd rfl hne
    | some entry => exact List.mem_map_of_mem (hfound entry rfl)
  rw [configured] at h ⊢
  split
  · next hauto =>
      rw [if_pos hauto] at h
      exact hentry _ (fun x hx => List.mem_of_getElem? hx) h
  · next hauto =>
      rw [if_neg hauto] at h
      exact hentry _ (fun x hx => List.mem_of_find?_eq_some hx) h

theorem DualVlanConfig.configured_nil {config : DualVlanConfig} (h : config.entries = [])
    (v : Nat) (vid : BitVec 13) : config.configured v vid = 0 := by
  by_contra hne
  have hmem := configured_mem hne
  rw [h] at hmem
  exact List.not_mem_nil hmem

theorem collisionOf_mem {e : RxVlanOperTable} {place : Nat × Nat}
    (h : collisionOf (env.groups sorted) e = some place) :
    (place.1, place.2, e.filterInnerVid) ∈ env.places sorted := by
  obtain ⟨group, hgroup, hplace⟩ := Option.map_eq_some_iff.mp h
  obtain ⟨hlt, hget⟩ := List.getElem?_eq_some_iff.mp hgroup
  have hfound := List.findIdx_getElem (w := hlt)
  rw [hget, decide_eq_true_iff] at hfound
  rw [← hplace]
  apply List.mem_flatMap.mpr
  refine ⟨_, List.mk_mem_zipIdx_iff_getElem?.mpr hgroup, List.mem_map.mpr ?_⟩
  refine ⟨(e.filterInnerVid, group.filterVids.idxOf e.filterInnerVid), ?_, rfl⟩
  exact List.mk_mem_zipIdx_iff_getElem?.mpr (List.getElem?_idxOf hfound.2)

theorem SplitFits.shadowOf_eq (h : SplitFits env sorted g) (e : RxVlanOperTable) :
    env.shadowOf sorted e = env.destination sorted e := by
  rw [SetContext.shadowOf, SetContext.destination]
  cases hplace : collisionOf (env.groups sorted) e with
  | none =>
      split
      · rfl
      · rfl
  | some place =>
      split
      · next hentries => exact (DualVlanConfig.configured_nil hentries _ _).symm
      · exact h.assigned _ (collisionOf_mem hplace)

theorem SplitFits.shadowMappers_eq (h : SplitFits env sorted g) :
    env.shadowMappers sorted = env.splitMappers sorted := by
  have hplaces : ((env.groups sorted).zipIdx.flatMap fun group =>
      group.1.filterVids.zipIdx.map fun vid =>
        mapperMeId (env.config sorted) env.stack group.2 vid.2 vid.1) =
      (env.places sorted).map fun place =>
        mapperMeId (env.config sorted) env.stack place.1 place.2.1 place.2.2 := by
    rw [SetContext.places, List.map_flatMap]
    apply List.flatMap_congr
    intro group _
    rw [List.map_map]
    rfl
  rw [SetContext.shadowMappers, SetContext.splitMappers, hplaces, List.map_congr_left h.assigned]
  split
  · next hentries =>
      rw [eq_comm, List.filter_eq_nil_iff]
      intro mapper hmapper
      obtain ⟨place, -, hconfigured⟩ := List.mem_map.mp hmapper
      rw [← hconfigured, DualVlanConfig.configured_nil hentries]
      decide
  · rfl

theorem splitMappers_ne_zero {mapper : BitVec 16} (h : mapper ∈ env.splitMappers sorted) :
    mapper ≠ 0 := by
  have hne := (List.mem_filter.mp h).2
  exact of_decide_eq_true hne

theorem config_entries_subset :
    (env.config sorted).entries ⊆ (readDualVlanConfig env.file).entries := by
  rw [SetContext.config]
  split
  · exact List.nil_subset _
  · exact List.Subset.refl _

theorem splitMappers_named {mapper : BitVec 16} (h : mapper ∈ env.splitMappers sorted) :
    mapper ∈ env.named := by
  obtain ⟨place, -, hconfigured⟩ := List.mem_map.mp (List.mem_of_mem_filter h)
  have hne := splitMappers_ne_zero h
  rw [← hconfigured] at hne ⊢
  exact List.map_subset _ config_entries_subset (DualVlanConfig.configured_mem hne)

theorem destination_mem {e : RxVlanOperTable} (h : env.destination sorted e ≠ 0) :
    env.destination sorted e ∈ env.splitMappers sorted := by
  refine List.mem_filter.mpr ⟨?_, decide_eq_true h⟩
  rw [SetContext.destination] at h ⊢
  cases hplace : collisionOf (env.groups sorted) e with
  | none =>
      rw [hplace] at h
      exact absurd rfl h
  | some place => exact List.mem_map.mpr ⟨_, collisionOf_mem hplace, rfl⟩

end Agree

section Loop

variable {env : SetContext} {shadowOf : RxVlanOperTable → BitVec 16} {g g' : Gpe} {u : Unit}

/-- What the loop does with the table of a mapper. -/
def shadowStep (env : SetContext) (shadowOf : RxVlanOperTable → BitVec 16) (mapper : BitVec 16)
    (rules : List GpeEntry) (e : RxVlanOperTable) : List GpeEntry :=
  if shadowOf e ≠ 0 ∧ shadowOf e = mapper then withImage rules 0 (image true (env.dsFilter e))
  else rules

/-- The rules that are split off have a table and are mapped if they have an image. -/
structure ShadowsReady (env : SetContext) (shadowOf : RxVlanOperTable → BitVec 16)
    (sorted : List RxVlanOperTable) (g : Gpe) : Prop where
  accepting : g.Accepting
  mapped : ∀ e ∈ sorted, shadowOf e ≠ 0 → (g.table true (shadowOf e)).isSome
  own : ∀ e ∈ sorted, shadowOf e = 0 ∨ shadowOf e ≠ env.id
  upstream : ∀ e ∈ sorted, shadowOf e ≠ 0 →
    image true (env.dsFilter e) ≠ none → image false e.filter ≠ none

variable {e : RxVlanOperTable} {rest : List RxVlanOperTable}

theorem ShadowsReady.tail (h : ShadowsReady env shadowOf (e :: rest) g) (hsteady : Steady g g')
    (htable : ∀ mapper, mapper ≠ env.id →
      (g'.table true mapper).isSome = (g.table true mapper).isSome) :
    ShadowsReady env shadowOf rest g' where
  accepting := hsteady.1 h.accepting
  mapped := by
    intro e' he' hne
    rw [htable _ ((h.own e' (List.mem_cons_of_mem _ he')).resolve_left hne)]
    exact h.mapped e' (List.mem_cons_of_mem _ he') hne
  own := fun e' he' => h.own e' (List.mem_cons_of_mem _ he')
  upstream := fun e' he' => h.upstream e' (List.mem_cons_of_mem _ he')

/-- A turn of the loop changes the table of a mapper as `shadowStep` says. -/
theorem programRules_turn {usIdx dsIdx : Nat} (hmode : env.dsMode = 0)
    (hready : ShadowsReady env shadowOf (e :: rest) g)
    (h : (programRules env shadowOf usIdx dsIdx (e :: rest)).Returns g u g') :
    ∃ next g₁, (programRules env shadowOf (usIdx + 1) next rest).Returns g₁ u g' ∧
      Steady g g₁ ∧ ∀ mapper, mapper ≠ env.id →
        g₁.table true mapper = (g.table true mapper).map (shadowStep env shadowOf mapper · e) := by
  obtain ⟨_, g₁, hadd, h⟩ := returns_bind.mp h
  have hus := (frame_elsewhere false env.id).entryAddDir usIdx e.filter g
  have hsteady := (frame_steady false env.id).entryAddDir usIdx e.filter g
  rw [hadd] at hus hsteady
  have hds : ∀ mapper, g₁.table true mapper = g.table true mapper :=
    fun mapper => hus true mapper fun hboth => Bool.noConfusion hboth.1
  have hother : ∀ mapper, ¬(shadowOf e ≠ 0 ∧ shadowOf e = mapper) →
      (g.table true mapper).map (shadowStep env shadowOf mapper · e) = g.table true mapper := by
    intro mapper hne
    have hid : (shadowStep env shadowOf mapper · e) = id := funext fun _ => if_neg hne
    rw [hid, Option.map_id_fun, id_eq]
  rw [if_pos hmode] at h
  by_cases hzero : shadowOf e = 0
  · rw [if_pos hzero] at h
    obtain ⟨next, g₂, hprogram, h⟩ := returns_bind.mp h
    have helse := (frame_elsewhere true env.id).programDs dsIdx (env.dsFilter e) g₁
    have hsteady' := (frame_steady true env.id).programDs dsIdx (env.dsFilter e) g₁
    rw [hprogram] at helse hsteady'
    refine ⟨next, g₂, h, (frame_steady true env.id).trans hsteady hsteady', fun mapper hid => ?_⟩
    rw [hother mapper fun hsplit => hsplit.1 hzero,
      helse true mapper fun hboth => hid hboth.2, hds]
  · rw [if_neg hzero] at h
    obtain ⟨_, g₂, hprogram, h⟩ := returns_bind.mp h
    have helse := (frame_elsewhere true (shadowOf e)).programShadow (env.dsFilter e) g₁
    have hsteady' := (frame_steady true (shadowOf e)).programShadow (env.dsFilter e) g₁
    have hknown : image true (env.dsFilter e) ≠ none → EthertypeKnown g₁ (env.dsFilter e) := by
      intro himage
      have hupstream := hready.upstream e List.mem_cons_self hzero himage
      have hether : (env.dsFilter e).filterEthertype = e.filter.filterEthertype := by
        rw [SetContext.dsFilter]
        split <;> rfl
      have hknown := entryAddDir_ethertypeKnown hadd hupstream
      rw [EthertypeKnown] at hknown ⊢
      rwa [hether]
    obtain ⟨rules, htable⟩ :=
      Option.isSome_iff_exists.mp (hready.mapped e List.mem_cons_self hzero)
    have hshadow := programShadow_accepting (hsteady.1 hready.accepting) hknown
      ((hds (shadowOf e)).trans htable)
    rw [hprogram] at helse hsteady' hshadow
    refine ⟨dsIdx, g₂, h, (frame_steady true (shadowOf e)).trans hsteady hsteady',
      fun mapper hid => ?_⟩
    by_cases hsame : shadowOf e = mapper
    · rw [← hsame, hshadow, htable, Option.map_some, shadowStep, if_pos ⟨hzero, rfl⟩]
    · rw [hother mapper fun hsplit => hsame hsplit.2, helse true mapper fun hboth => hsame hboth.2.symm, hds]

/-- The tables of the mappers after the loop. -/
theorem programRules_shadows {usIdx dsIdx : Nat} {sorted : List RxVlanOperTable}
    (hmode : env.dsMode = 0) (hready : ShadowsReady env shadowOf sorted g)
    (h : (programRules env shadowOf usIdx dsIdx sorted).Returns g u g') :
    Steady g g' ∧ ∀ mapper, mapper ≠ env.id →
      g'.table true mapper =
        (g.table true mapper).map (sorted.foldl (shadowStep env shadowOf mapper)) := by
  induction sorted generalizing g usIdx dsIdx with
  | nil =>
      obtain ⟨-, rfl⟩ := returns_pure.mp h
      refine ⟨(frame_steady true 0).refl _, fun mapper _ => ?_⟩
      exact (congrFun Option.map_id_fun _).symm
  | cons e rest ih =>
      obtain ⟨next, g₁, hrest, hsteady, hturn⟩ := programRules_turn hmode hready h
      have hready' : ShadowsReady env shadowOf rest g₁ :=
        hready.tail hsteady fun mapper hid => by rw [hturn mapper hid, Option.isSome_map]
      obtain ⟨hsteady', htables⟩ := ih hready' hrest
      refine ⟨(frame_steady true 0).trans hsteady hsteady', fun mapper hid => ?_⟩
      rw [htables mapper hid, hturn mapper hid, Option.map_map]
      rfl

/-- An empty table gets the only row there is for it. -/
theorem foldl_shadowStep {sorted : List RxVlanOperTable} {mapper : BitVec 16} (hne : mapper ≠ 0)
    (hshadow : ∀ e, shadowOf e = env.destination sorted e) (rules : List GpeEntry)
    (hsingle : (rules ++ rest.flatMap (env.shadowRows sorted mapper)).length ≤ 1) :
    rest.foldl (shadowStep env shadowOf mapper) rules =
      rules ++ rest.flatMap (env.shadowRows sorted mapper) := by
  induction rest generalizing rules with
  | nil => exact (List.append_nil rules).symm
  | cons e rest ih =>
      rw [List.flatMap_cons, ← List.append_assoc] at hsingle ⊢
      have hstep : shadowStep env shadowOf mapper rules e =
          rules ++ env.shadowRows sorted mapper e := by
        rw [shadowStep, SetContext.shadowRows, hshadow]
        by_cases hsame : env.destination sorted e = mapper
        · rw [if_pos ⟨hsame ▸ hne, hsame⟩, if_pos hsame]
          cases himage : image true (env.dsFilter e) with
          | none => exact (List.append_nil rules).symm
          | some new =>
              have hempty : rules = [] := by
                rw [SetContext.shadowRows, if_pos hsame, himage, List.length_append,
                  List.length_append, Option.toList_some, List.length_singleton] at hsingle
                exact List.eq_nil_of_length_eq_zero (by omega)
              rw [hempty]
              change addEntry [] 0 new = [new]
              rw [addEntry, if_neg fun hblocked => Bool.false_ne_true hblocked.2]
              rfl
        · rw [if_neg fun hboth => hsame hboth.2, if_neg hsame, List.append_nil]
      rw [List.foldl_cons, hstep, ih _ hsingle]

end Loop

def OtherIds (id : BitVec 16) (g g' : Gpe) : Prop :=
  ∀ ds id', id' ≠ id → g'.table ds id' = g.table ds id'

theorem frame_otherIds (ds : Bool) (id : BitVec 16) : Frame (OtherIds id) ds id where
  refl := fun _ _ _ _ => rfl
  trans := fun h h' ds' id' hne => (h' ds' id' hne).trans (h ds' id' hne)
  devCtl := fun _ _ _ _ => rfl
  setTable := fun _ _ _ _ hne => if_neg fun hboth => hne hboth.2
  ruleMapDir := fun _ _ _ _ _ _ _ => rfl

/-- The invariant of runs with a split. -/
structure SplitInv (env : SetContext) (start : Gpe) (s : ExtVlanMe × Gpe) : Prop where
  sound : SplitSound env start s
  wellFormed : s.1.oper.WellFormed
  accepting : s.2.Accepting
  /-- The shadow tables that there are are recorded. -/
  recorded : s.1.shadowDs = env.splitMappers (s.1.rules env)

section Steps

variable {env : SetContext} {start : Gpe} {s s' : ExtVlanMe × Gpe}
  {set : RxVlanOperTable × Bool} {sorted : List RxVlanOperTable}

theorem dsImages_eq_ownRows (hfits : SplitFits env sorted start) :
    dsImages env (env.shadowOf sorted) sorted = sorted.flatMap (env.ownRows sorted) := by
  have hrows : (fun e => if env.shadowOf sorted e = 0 then dsRows env e else []) =
      env.ownRows sorted := by
    funext e
    rw [hfits.shadowOf_eq, SetContext.ownRows]
  rw [dsImages_eq fun halcl e he hzero =>
    hfits.ownImages halcl e he ((hfits.shadowOf_eq e).symm.trans hzero), hrows]

/-- Rebuilding leaves an empty shadow table for each mapper of the groups. -/
theorem rebuildShadows_tables (hinv : SplitInv env start s) (hfits : SplitFits env sorted s.2) :
    ∃ g, rebuildShadows env sorted s.1.shadowDs s.2 = (some (env.splitMappers sorted), g) ∧
      g.Accepting ∧ (∀ mapper ∈ env.named, mapper ≠ env.id → g.table true mapper =
        if mapper ∈ env.splitMappers sorted then some [] else none) ∧
      ∀ id, id ∉ env.named → g.table true id = s.2.table true id := by
  obtain ⟨g₁, hdestroy, haccepting₁, hmappers₁, htable₁⟩ :=
    destroyShadows_accepting hinv.accepting s.1.shadowDs
  have hexist : ∀ mapper ∈ env.splitMappers sorted, g₁.pmapper mapper = true :=
    fun mapper hmapper => hmappers₁ ▸ hfits.exist mapper hmapper
  have hroom : ([] : List (BitVec 16)).length + (env.splitMappers sorted).length ≤
      maxShadowDsTables := by
    rw [List.length_nil, Nat.zero_add]
    exact hfits.room
  obtain ⟨g₂, hcreate, haccepting₂, -, htable₂⟩ :=
    createShadows_accepting haccepting₁ (env.splitMappers sorted) [] hexist hroom
  have hnone : ∀ mapper ∈ env.named, mapper ≠ env.id → g₁.table true mapper = none := by
    intro mapper hmapper hne
    rw [htable₁, hinv.sound.shadow mapper hmapper hne, hinv.recorded]
    by_cases hold : mapper ∈ env.splitMappers (s.1.rules env)
    · rw [if_pos ⟨rfl, hold⟩]
    · rw [if_neg fun hboth => hold hboth.2, if_neg hold]
  refine ⟨g₂, ?_, haccepting₂, fun mapper hmapper hne => ?_, fun id hout => ?_⟩
  · rw [rebuildShadows, bind_apply hdestroy, hfits.shadowMappers_eq]
    exact hcreate
  · rw [htable₂, Gpe.rules, hnone mapper hmapper hne, Option.getD_none]
    by_cases hnew : mapper ∈ env.splitMappers sorted
    · rw [if_pos ⟨rfl, hnew⟩, if_pos hnew]
    · rw [if_neg fun hboth => hnew hboth.2, if_neg hnew]
  · have hrecorded : id ∉ s.1.shadowDs := by
      rw [hinv.recorded]
      exact fun hin => hout (splitMappers_named hin)
    rw [htable₂, if_neg fun hboth => hout (splitMappers_named hboth.2), htable₁,
      if_neg fun hboth => hrecorded hboth.2]

/-- A new rule leaves the split sound. -/
theorem SplitInv.add (hmode : env.dsMode = 0)
    (hinv : SplitInv env start s) (hnew : set.1.isDelete = false)
    (hset : (tableSet env set.1 set.2 s.1 s.2).1 = .success)
    (hfits : SplitFits env (env.rulesAfter set.1 set.2 s.1) s.2) :
    SplitInv env start (tableSet env set.1 set.2 s.1 s.2).2 := by
  obtain ⟨hme, hloop⟩ := tableSet_success hnew hset
  obtain ⟨g₂, hrebuilt, haccepting₂, hshadow₂, hother₂⟩ := rebuildShadows_tables hinv hfits
  have hrules : (tableSet env set.1 set.2 s.1 s.2).2.1.rules env =
      env.rulesAfter set.1 set.2 s.1 := by
    rw [hme]
    rfl
  have hclear : tableClear env.id env.dsMode g₂ =
      (some (), (g₂.setTable false env.id (some [])).setTable true env.id (some [])) := by
    rw [hmode]
    exact tableClear_accepting haccepting₂
  have hown : ∀ e ∈ env.rulesAfter set.1 set.2 s.1,
      env.shadowOf (env.rulesAfter set.1 set.2 s.1) e = 0 ∨
        env.shadowOf (env.rulesAfter set.1 set.2 s.1) e ≠ env.id := by
    intro e _
    rw [hfits.shadowOf_eq]
    by_cases hzero : env.destination (env.rulesAfter set.1 set.2 s.1) e = 0
    · exact .inl hzero
    · exact .inr fun hsame => hfits.own (hsame ▸ destination_mem hzero)
  have hcleared : Cleared env (env.rulesAfter set.1 set.2 s.1) s.1.shadowDs s.2 := by
    rw [Cleared, hrebuilt, hclear]
    refine ⟨?_, fun _ => ?_⟩
    · rw [Gpe.rules, setTable_table, if_neg fun hboth => Bool.noConfusion hboth.1, setTable_table,
        if_pos ⟨rfl, rfl⟩, Option.getD_some]
    · rw [Gpe.rules, setTable_table, if_pos ⟨rfl, rfl⟩, Option.getD_some]
  have hds := (reprogram_returns hloop hcleared hown).2 hmode
  rw [hrebuilt] at hloop
  obtain ⟨_, g₃, hattempt, hloop⟩ := returns_bind.mp hloop
  have hg₃ : g₃ = (g₂.setTable false env.id (some [])).setTable true env.id (some []) := by
    rw [returns_attempt.mp hattempt, hclear]
  have htable₃ : ∀ id, id ≠ env.id → g₃.table true id = g₂.table true id := by
    intro id hne
    rw [hg₃, setTable_table, if_neg fun hboth => hne hboth.2, setTable_table,
      if_neg fun hboth => hne hboth.2]
  have hne : ∀ mapper ∈ env.splitMappers (env.rulesAfter set.1 set.2 s.1), mapper ≠ env.id :=
    fun mapper hin hsame => hfits.own (hsame ▸ hin)
  have hready : ShadowsReady env (env.shadowOf (env.rulesAfter set.1 set.2 s.1))
      (env.rulesAfter set.1 set.2 s.1) g₃ := by
    refine ⟨?_, fun e _ hshadow => ?_, hown, fun e he hshadow => ?_⟩
    · rw [hg₃]
      exact haccepting₂.setTable.setTable
    · rw [hfits.shadowOf_eq] at hshadow ⊢
      have hsplit := destination_mem hshadow
      rw [htable₃ _ (hne _ hsplit), hshadow₂ _ (splitMappers_named hsplit) (hne _ hsplit),
        if_pos hsplit]
      rfl
    · rw [hfits.shadowOf_eq] at hshadow
      exact hfits.upstream e he hshadow
  obtain ⟨hsteady, htables⟩ := programRules_shadows hmode hready hloop
  refine ⟨⟨?_, fun mapper hmapper hother => ?_, fun id hout hother => ?_⟩, ?_, ?_, ?_⟩
  · rw [hrules, hds, dsImages_eq_ownRows hfits]
    exact keepFirst_eq_self_iff.mpr hfits.ownOneDefault
  · rw [hrules, htables mapper hother, htable₃ mapper hother, hshadow₂ mapper hmapper hother]
    by_cases hsplit : mapper ∈ env.splitMappers (env.rulesAfter set.1 set.2 s.1)
    · rw [if_pos hsplit, if_pos hsplit, Option.map_some, foldl_shadowStep
        (splitMappers_ne_zero hsplit) hfits.shadowOf_eq [] (hfits.single mapper hsplit)]
      rfl
    · rw [if_neg hsplit, if_neg hsplit, Option.map_none]
  · have hstep : ∀ rules e, shadowStep env
        (env.shadowOf (env.rulesAfter set.1 set.2 s.1)) id rules e = rules := by
      intro rules e
      apply if_neg
      rw [hfits.shadowOf_eq]
      exact fun hboth => hout (splitMappers_named (hboth.2 ▸ destination_mem hboth.1))
    have hsame : (env.rulesAfter set.1 set.2 s.1).foldl
        (shadowStep env (env.shadowOf (env.rulesAfter set.1 set.2 s.1)) id) = fun rules => rules :=
      funext fun rules => List.foldl_fixed' (hstep rules) _
    rw [htables id hother, hsame, Option.map_id', htable₃ id hother, hother₂ id hout]
    exact hinv.sound.others id hout hother
  · rw [hme]
    exact (hinv.wellFormed.set env.vendor set.1 set.2).2.1
  · exact hsteady.1 hready.accepting
  · rw [hrules, hme, hrebuilt]
    rfl

theorem flatMap_erase {α β : Type*} [DecidableEq α] {f : α → List β} {rules : List α} {a : α}
    (ha : a ∈ rules) (hnone : f a = []) : (rules.erase a).flatMap f = rules.flatMap f := by
  obtain ⟨before, after, -, hrules, herase⟩ := List.exists_erase_eq ha
  rw [herase, hrules, List.flatMap_append, List.flatMap_append, List.flatMap_cons, hnone,
    List.nil_append]

/-- Deleting a rule that has nothing to do with the split leaves the split sound. -/
theorem SplitInv.delete (hmode : env.dsMode = 0) (hinv : SplitInv env start s)
    (hdelete : set.1.isDelete = true) (hset : (tableSet env set.1 set.2 s.1 s.2).1 = .success)
    (hleaves : ∀ old ∈ s.1.oper.list, old.data.key = set.1.key →
      LeavesSplit env (s.1.rules env) old) :
    SplitInv env start (tableSet env set.1 set.2 s.1 s.2).2 := by
  obtain ⟨old, hfind, hme, hremoved⟩ := tableSet_delete hdelete hset
  have hmem := List.mem_of_find?_eq_some hfind
  have hguard := hleaves old hmem (RxVlanOperTableEntry.hasKey_iff.mp (List.find?_some hfind))
  have hin : old.data ∈ s.1.rules env :=
    (OperList.sortArray_perm env.vendor s.1.oper).mem_iff.mpr (List.mem_map_of_mem hmem)
  have hrules : (tableSet env set.1 set.2 s.1 s.2).2.1.rules env =
      (s.1.rules env).erase old.data := by
    rw [hme]
    exact hinv.wellFormed.sortArray_remove hfind env.vendor
  have hother := (frame_otherIds false env.id).entryRemove (frame_otherIds true env.id) old.idx
    env.dsMode s.2
  have hsteady := (frame_steady false env.id).entryRemove (frame_steady true env.id) old.idx
    env.dsMode s.2
  rw [hremoved] at hother hsteady
  refine ⟨⟨?_, fun mapper hmapper hne => ?_, fun id hout hne => ?_⟩, ?_, ?_, ?_⟩
  · have hrows : ∀ e ∈ (s.1.rules env).erase old.data,
        env.ownRows ((s.1.rules env).erase old.data) e = env.ownRows (s.1.rules env) e := by
      intro e he
      rw [SetContext.ownRows, hguard.destinations e he, SetContext.ownRows]
    rw [hrules, (entryRemove_returns hremoved).2 hmode, hinv.sound.own,
      hguard.ownRow.eraseIdx hin, List.flatMap_congr hrows]
  · have hrows : ∀ e ∈ (s.1.rules env).erase old.data,
        env.shadowRows ((s.1.rules env).erase old.data) mapper e =
          env.shadowRows (s.1.rules env) mapper e := by
      intro e he
      rw [SetContext.shadowRows, hguard.destinations e he, SetContext.shadowRows]
    rw [hrules, hother true mapper hne, hinv.sound.shadow mapper hmapper hne, hguard.places]
    by_cases hsplit : mapper ∈ env.splitMappers (s.1.rules env)
    · have hnone : env.shadowRows (s.1.rules env) mapper old.data = [] := by
        rw [SetContext.shadowRows, hguard.unsplit]
        exact if_neg fun hzero => splitMappers_ne_zero hsplit hzero.symm
      rw [if_pos hsplit, if_pos hsplit, List.flatMap_congr hrows, flatMap_erase hin hnone]
    · rw [if_neg hsplit, if_neg hsplit]
  · rw [hother true id hne]
    exact hinv.sound.others id hout hne
  · rw [hme]
    exact (hinv.wellFormed.remove _).1
  · exact hsteady.1 hinv.accepting
  · rw [hrules, hguard.places, hme]
    exact hinv.recorded

end Steps

/-- In every run of successful SETs that all meet the guard, on hardware that accepts all calls and
has no tables for the mappers, the split is sound. -/
theorem split_sound {env : SetContext} {start : Gpe} {s : ExtVlanMe × Gpe}
    (hmode : env.dsMode = 0) (haccepting : start.Accepting) (hempty : start.rules true env.id = [])
    (hfree : ∀ mapper ∈ env.named, start.table true mapper = none)
    (hreach : ReachOn (splitStep env) (SplitGuard env) (⟨.init, []⟩, start) s) :
    SplitSound env start s := by
  have hrules : (⟨OperList.init, []⟩ : ExtVlanMe).rules env = [] := by
    apply List.eq_nil_of_length_eq_zero
    rw [(OperList.sortArray_perm env.vendor _).length_eq]
    rfl
  have hgroups : env.groups [] = [] := by
    rw [SetContext.groups]
    split <;> rfl
  have hmappers : env.splitMappers [] = [] := by
    rw [SetContext.splitMappers, SetContext.places, hgroups]
    rfl
  have hstart : SplitInv env start (⟨.init, []⟩, start) := by
    refine ⟨⟨?_, fun mapper hmapper _ => ?_, fun _ _ _ => rfl⟩,
      ⟨List.nodup_nil, rfl, rfl⟩, haccepting, ?_⟩
    · rw [hrules]
      exact hempty
    · rw [hrules, hmappers, if_neg List.not_mem_nil]
      exact hfree mapper hmapper
    · rw [hrules, hmappers]
  refine (hreach.invariant hstart fun before set after hinv hguard hstep => ?_).sound
  rw [splitStep] at hstep
  split at hstep
  · next hset =>
      rw [← Option.some.inj hstep]
      by_cases hdelete : set.1.isDelete = true
      · exact hinv.delete hmode hdelete hset (hguard.delete hdelete)
      · have hnew := Bool.eq_false_iff.mpr hdelete
        exact hinv.add hmode hnew hset (hguard.add hnew)
  · cases hstep

theorem splitStep_eq {env : SetContext} {s : ExtVlanMe × Gpe} {set : RxVlanOperTable × Bool}
    (h : (tableSet env set.1 set.2 s.1 s.2).1 = .success) :
    splitStep env s set = some (tableSet env set.1 set.2 s.1 s.2).2 :=
  if_pos h

def SetContext.split (file : List Char) : SetContext :=
  { SetContext.plain .hwtc 0 with file := some file }

def Gpe.withMappers : Gpe :=
  { Gpe.fresh with pmapper := fun _ => true }

def toVid100 (vid : BitVec 13) : RxVlanOperTable :=
  { translateTag with filterInnerVid := vid, treatmentInnerVid := 100 }

def twoMappers : SetContext :=
  .split ['5', ':', '7', '\n', '6', ':', '8']

def collidingRules (env : SetContext) : ExtVlanMe × Gpe :=
  let first := (tableSet env (toVid100 5) false ⟨.init, []⟩ .withMappers).2
  (tableSet env (toVid100 6) false first.1 first.2).2

theorem split_sound_twoMappers :
    SplitSound twoMappers .withMappers (collidingRules twoMappers) := by
  have hfirst : splitStep twoMappers (⟨.init, []⟩, .withMappers) (toVid100 5, false) = some _ :=
    splitStep_eq (by decide +kernel)
  have hsecond : splitStep twoMappers _ (toVid100 6, false) = some (collidingRules twoMappers) :=
    splitStep_eq (by decide +kernel)
  have hmappers : twoMappers.splitMappers (twoMappers.rulesAfter (toVid100 6) false
      (tableSet twoMappers (toVid100 5) false ⟨.init, []⟩ .withMappers).2.1) = [8, 7] := by
    decide +kernel
  have hnone : twoMappers.splitMappers (twoMappers.rulesAfter (toVid100 5) false
      ⟨.init, []⟩) = [] := by
    decide +kernel
  refine split_sound rfl rfl rfl (fun _ _ => rfl)
    (.tail (.tail .refl ⟨fun hdelete => absurd hdelete (by decide), fun _ => ?_⟩ hfirst)
      ⟨fun hdelete => absurd hdelete (by decide), fun _ => ?_⟩ hsecond)
  · exact ⟨by decide +kernel, by decide +kernel, fun _ _ => rfl, by decide +kernel,
      fun mapper hmapper => absurd (hnone ▸ hmapper) List.not_mem_nil, by decide +kernel,
      by decide +kernel, by decide +kernel⟩
  · refine ⟨by decide +kernel, by decide +kernel, fun _ _ => rfl, by decide +kernel, ?_,
      by decide +kernel, by decide +kernel, by decide +kernel⟩
    rw [hmappers]
    exact List.forall_mem_cons.mpr
      ⟨by decide +kernel, List.forall_mem_singleton.mpr (by decide +kernel)⟩

def sharedMapper : SetContext :=
  .split ['5', ':', '7', '\n', '6', ':', '7']

/-- Of two rules with the same mapper only the second is in its shadow table. -/
theorem not_split_sound :
    ¬∀ (env : SetContext) (start : Gpe) (s : ExtVlanMe × Gpe),
      env.dsMode = 0 → start.Accepting → start.rules true env.id = [] →
      (∀ mapper ∈ env.named, start.table true mapper = none) →
      Reach (splitStep env) (⟨.init, []⟩, start) s → SplitSound env start s := by
  intro h
  have hfirst : splitStep sharedMapper (⟨.init, []⟩, .withMappers) (toVid100 5, false) = some _ :=
    splitStep_eq (by decide +kernel)
  have hsecond : splitStep sharedMapper _ (toVid100 6, false) =
      some (collidingRules sharedMapper) := splitStep_eq (by decide +kernel)
  have hsound := h sharedMapper .withMappers (collidingRules sharedMapper) rfl rfl rfl
    (fun _ _ => rfl) (.tail (.tail .refl trivial hfirst) trivial hsecond)
  have hshadow := hsound.shadow 7 (by decide +kernel) (by decide)
  rw [if_pos (by decide +kernel)] at hshadow
  have hlength := congrArg (Option.map List.length) hshadow
  revert hlength
  decide +kernel

end FalconGpon.Vlan
