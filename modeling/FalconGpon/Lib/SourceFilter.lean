/-
# Source filters

A receiver of a multicast group asks for the traffic of some sources or for that of all but
some. `merge` is the filter of a router in front of several receivers: it lets a source
through exactly if one of them asks for it (`passes_merge_iff`), and depends on who the
receivers are but not on their order (`merge_congr`).
-/

import Mathlib.Data.Set.Lattice

namespace FalconGpon.Lib

/-- Whether the listed sources are those asked for or those not. -/
inductive FilterMode
  | incl
  | excl
deriving DecidableEq

variable {α : Type*}

/-- What a receiver asks for. -/
@[ext]
structure SourceFilter (α : Type*) where
  mode : FilterMode
  sources : Set α

namespace SourceFilter

/-- The receiver asks for the traffic of the source. -/
def Passes (filter : SourceFilter α) (source : α) : Prop :=
  match filter.mode with
  | .incl => source ∈ filter.sources
  | .excl => source ∉ filter.sources

/-- What a receiver reports: its filter, or sources to add to those it asks for or to take from
them. -/
inductive FilterRecord (α : Type*)
  | state (filter : SourceFilter α)
  | allow (sources : Set α)
  | block (sources : Set α)

/-- The filter of a receiver after a record of its. -/
def receive (filter : SourceFilter α) : FilterRecord α → SourceFilter α
  | .state new => new
  | .allow sources =>
      match filter.mode with
      | .incl => ⟨.incl, filter.sources ∪ sources⟩
      | .excl => ⟨.excl, filter.sources \ sources⟩
  | .block sources =>
      match filter.mode with
      | .incl => ⟨.incl, filter.sources \ sources⟩
      | .excl => ⟨.excl, filter.sources ∪ sources⟩

theorem receive_allow_of_excl {filter : SourceFilter α} (hmode : filter.mode = .excl)
    (sources : Set α) : filter.receive (.allow sources) = ⟨.excl, filter.sources \ sources⟩ := by
  simp only [receive, hmode]

theorem receive_block_of_excl {filter : SourceFilter α} (hmode : filter.mode = .excl)
    (sources : Set α) : filter.receive (.block sources) = ⟨.excl, filter.sources ∪ sources⟩ := by
  simp only [receive, hmode]

theorem eq_of_passes {filter other : SourceFilter α} (hmode : filter.mode = other.mode)
    (h : ∀ source, filter.Passes source ↔ other.Passes source) : filter = other := by
  ext source
  · rw [hmode]
  · have hsource := h source
    unfold Passes at hsource
    rw [← hmode] at hsource
    cases hfilter : filter.mode with
    | incl => simpa only [hfilter] using hsource
    | excl => simpa only [hfilter, not_iff_not] using hsource

def included (filters : List (SourceFilter α)) : Set α :=
  {source | ∃ filter ∈ filters, filter.mode = .incl ∧ source ∈ filter.sources}

def excluded (filters : List (SourceFilter α)) : Set α :=
  {source | ∀ filter ∈ filters, filter.mode = .excl → source ∈ filter.sources}

open Classical in
/-- The filter in front of several receivers. -/
noncomputable def merge (filters : List (SourceFilter α)) : SourceFilter α :=
  if ∃ filter ∈ filters, filter.mode = .excl then
    ⟨.excl, excluded filters \ included filters⟩
  else ⟨.incl, included filters⟩

variable {filters others : List (SourceFilter α)}

theorem merge_of_excl (h : ∃ filter ∈ filters, filter.mode = .excl) :
    merge filters = ⟨.excl, excluded filters \ included filters⟩ := if_pos h

theorem merge_of_incl (h : ¬ ∃ filter ∈ filters, filter.mode = .excl) :
    merge filters = ⟨.incl, included filters⟩ := if_neg h

theorem mode_merge : (merge filters).mode = .excl ↔ ∃ filter ∈ filters, filter.mode = .excl := by
  by_cases h : ∃ filter ∈ filters, filter.mode = .excl
  · rw [merge_of_excl h]
    exact iff_of_true rfl h
  · rw [merge_of_incl h]
    exact iff_of_false nofun h

/-- Nothing is lost and nothing is added: the merged filter lets a source through exactly if a
receiver asks for it. -/
theorem passes_merge_iff (source : α) :
    (merge filters).Passes source ↔ ∃ filter ∈ filters, filter.Passes source := by
  by_cases h : ∃ filter ∈ filters, filter.mode = .excl
  · rw [merge_of_excl h]
    constructor
    · intro hpasses
      by_contra hnone
      apply hpasses
      constructor
      · intro filter hfilter hmode
        by_contra hsource
        exact hnone ⟨filter, hfilter, by simpa only [Passes, hmode] using hsource⟩
      · rintro ⟨filter, hfilter, hmode, hsource⟩
        exact hnone ⟨filter, hfilter, by simpa only [Passes, hmode] using hsource⟩
    · rintro ⟨filter, hfilter, hpasses⟩ ⟨hexcluded, hincluded⟩
      cases hmode : filter.mode with
      | incl =>
          simp only [Passes, hmode] at hpasses
          exact hincluded ⟨filter, hfilter, hmode, hpasses⟩
      | excl =>
          simp only [Passes, hmode] at hpasses
          exact hpasses (hexcluded filter hfilter hmode)
  · rw [merge_of_incl h]
    constructor
    · rintro ⟨filter, hfilter, hmode, hsource⟩
      exact ⟨filter, hfilter, by simpa only [Passes, hmode] using hsource⟩
    · rintro ⟨filter, hfilter, hpasses⟩
      cases hmode : filter.mode with
      | incl =>
          simp only [Passes, hmode] at hpasses
          exact ⟨filter, hfilter, hmode, hpasses⟩
      | excl => exact absurd ⟨filter, hfilter, hmode⟩ h

theorem merge_congr (h : ∀ filter, filter ∈ filters ↔ filter ∈ others) :
    merge filters = merge others := by
  have hexcluded : excluded filters = excluded others := by
    ext source
    simp only [excluded, Set.mem_ofPred_eq, h]
  have hincluded : included filters = included others := by
    ext source
    simp only [included, Set.mem_ofPred_eq, h]
  have hexcl : (∃ filter ∈ filters, filter.mode = .excl) ↔
      ∃ filter ∈ others, filter.mode = .excl := by simp only [h]
  by_cases hsome : ∃ filter ∈ filters, filter.mode = .excl
  · rw [merge_of_excl hsome, merge_of_excl (hexcl.mp hsome), hexcluded, hincluded]
  · rw [merge_of_incl hsome, merge_of_incl (mt hexcl.mpr hsome), hincluded]

/-- A filter in front of filters is one in front of all receivers. -/
theorem merge_map_merge (groups : List (List (SourceFilter α))) :
    merge (groups.map merge) = merge groups.flatten := by
  have hexcl : (∃ filter ∈ groups.map merge, filter.mode = .excl) ↔
      ∃ filter ∈ groups.flatten, filter.mode = .excl := by
    constructor
    · rintro ⟨_, hfilter, hmode⟩
      obtain ⟨group, hgroup, rfl⟩ := List.mem_map.mp hfilter
      obtain ⟨filter, hmem, hfilter⟩ := mode_merge.mp hmode
      exact ⟨filter, List.mem_flatten.mpr ⟨group, hgroup, hmem⟩, hfilter⟩
    · rintro ⟨filter, hfilter, hmode⟩
      obtain ⟨group, hgroup, hmem⟩ := List.mem_flatten.mp hfilter
      exact ⟨merge group, List.mem_map_of_mem hgroup, mode_merge.mpr ⟨filter, hmem, hmode⟩⟩
  have hmode : (merge (groups.map merge)).mode = (merge groups.flatten).mode := by
    cases hleft : (merge (groups.map merge)).mode with
    | excl => exact (mode_merge.mpr (hexcl.mp (mode_merge.mp hleft))).symm
    | incl =>
        cases hright : (merge groups.flatten).mode with
        | incl => rfl
        | excl =>
            rw [mode_merge.mpr (hexcl.mpr (mode_merge.mp hright))] at hleft
            cases hleft
  -- the filters are of one mode and let the same sources through
  refine eq_of_passes hmode fun source => ?_
  rw [passes_merge_iff, passes_merge_iff]
  constructor
  · rintro ⟨_, hfilter, hpasses⟩
    obtain ⟨group, hgroup, rfl⟩ := List.mem_map.mp hfilter
    obtain ⟨filter, hmem, hfilter⟩ := (passes_merge_iff source).mp hpasses
    exact ⟨filter, List.mem_flatten.mpr ⟨group, hgroup, hmem⟩, hfilter⟩
  · rintro ⟨filter, hfilter, hpasses⟩
    obtain ⟨group, hgroup, hmem⟩ := List.mem_flatten.mp hfilter
    exact ⟨merge group, List.mem_map_of_mem hgroup,
      (passes_merge_iff source).mpr ⟨filter, hmem, hpasses⟩⟩

end SourceFilter

end FalconGpon.Lib
