/-
# The filter of a client

`mcc_rec_process` sets the modes of the client that a record is from and refreshes its sources.
A source mode once set stays: a record without one takes over that of the last ALLOW or BLOCK,
and adds to the sources or removes from them instead of replacing them. And the dummy entry
for no excluded source is neither removed with the first source that is blocked, nor made when
the last one is allowed.

`cltRecords_iff`: the filters of all clients are those of RFC 3376 throughout a run exactly if
every record meets `CltGuard`.
-/

import FalconGpon.Mcc.StaticFlow

namespace FalconGpon.Mcc

open FalconGpon.Lib SourceFilter

/-! ## The clients of a group -/

/-- The clients of a group, each address once. -/
structure MccCltList where
  entries : List MccCltEntry
  nodup : (entries.map MccCltEntry.ca).Nodup

/-- The record of a packet, applied to the clients of its group. -/
def MccCltList.report (list : MccCltList) (pkt : MccPktRec) : MccCltList :=
  match mccRecGet pkt with
  | none => list
  | some rec =>
      { entries := mccCltUpdate rec list.entries
        nodup := nodup_upsert list.nodup rfl fun _ _ h => (mccCltRefresh_frame h).1 }

def newClt (ca : MccIpAddr) : MccCltEntry := ⟨ca, .empty, .incl, none, false⟩

def MccCltList.client (list : MccCltList) (ca : MccIpAddr) : MccCltEntry :=
  (mccCltFind list.entries ca).getD (newClt ca)

/-! ## What is to be stored -/

def MccCltList.stored (list : MccCltList) (ca : MccIpAddr) : SourceFilter MccIpAddr :=
  (list.client ca).stored

open Classical in
/-- How a filter is represented: the dummy entry stands for no excluded source. -/
noncomputable def represent (filter : SourceFilter MccIpAddr) : SourceFilter MccIpAddr :=
  if filter = ⟨.excl, ∅⟩ then ⟨.excl, {mccIpAny}⟩ else filter

open Classical in
/-- The filter that is represented. -/
noncomputable def represented (stored : SourceFilter MccIpAddr) : SourceFilter MccIpAddr :=
  if stored = ⟨.excl, {mccIpAny}⟩ then ⟨.excl, ∅⟩ else stored

/-- What a record of a packet says. -/
def MccPktRec.meaning (pkt : MccPktRec) : FilterRecord MccIpAddr :=
  match pkt.recType with
  | .isInclude | .changeToInclude => .state ⟨.incl, {sa | sa ∈ pkt.sas}⟩
  | .isExclude | .changeToExclude => .state ⟨.excl, {sa | sa ∈ pkt.sas}⟩
  | .allowNewSources => .allow {sa | sa ∈ pkt.sas}
  | .blockOldSources => .block {sa | sa ∈ pkt.sas}

/-- The filter of the client is the one that the record makes of it, and those of the others stay
as they are. -/
def CltRight (before : MccCltList) (pkt : MccPktRec) (after : MccCltList) : Prop :=
  after.stored pkt.ca = represent ((represented (before.stored pkt.ca)).receive pkt.meaning) ∧
    ∀ ca ≠ pkt.ca, after.stored ca = before.stored ca

/-- When a record does to a client what it says. -/
def CltGuard (clt : MccCltEntry) (pkt : MccPktRec) : Prop :=
  match pkt.recType with
  | .isInclude | .changeToInclude =>
      pkt.sas = [] ∨ mccIpAny ∉ pkt.sas ∧
        (clt.smode ≠ none → ∀ sa ∈ addrs clt.srcList.entries, sa ∈ pkt.sas ∨ sa = mccIpAny) ∧
        (clt.smode = some .block → ∀ sa ∈ pkt.sas, sa ∈ clt.left pkt.sas)
  | .isExclude | .changeToExclude =>
      let sas := if pkt.sas = [] then [mccIpAny] else pkt.sas
      (clt.smode ≠ none → ∀ sa ∈ addrs clt.srcList.entries, sa ∈ sas) ∧
        (clt.smode = some .allow → ∀ sa ∈ sas, sa ∈ clt.left sas)
  | .allowNewSources =>
      match clt.fmode with
      | .incl => pkt.sas = [] ∨ mccIpAny ∉ pkt.sas ∧ mccIpAny ∉ addrs clt.srcList.entries
      | .excl => clt.left pkt.sas ≠ [] ∧
          ((∀ sa ∈ clt.left pkt.sas, sa ∉ pkt.sas) ∨ ∀ sa ∈ clt.left pkt.sas, sa = mccIpAny)
  | .blockOldSources =>
      match clt.fmode with
      | .incl => pkt.sas = [] ∨ (∀ sa ∈ clt.left pkt.sas, sa ∈ pkt.sas → sa = mccIpAny) ∧
          (mccIpAny ∈ addrs clt.srcList.entries → mccIpAny ∈ pkt.sas)
      | .excl =>
          if pkt.sas = [] then clt.srcList.entries ≠ []
          else isAny clt.srcList.entries = true → mccIpAny ∈ pkt.sas

/-! ## Representations -/

theorem represent_incl (sources : Set MccIpAddr) :
    represent ⟨.incl, sources⟩ = ⟨.incl, sources⟩ := if_neg nofun

theorem represented_incl (sources : Set MccIpAddr) :
    represented ⟨.incl, sources⟩ = ⟨.incl, sources⟩ := if_neg nofun

theorem represent_excl (sources : Set MccIpAddr) : (represent ⟨.excl, sources⟩).mode = .excl ∧
      ∀ sa, sa ∈ (represent ⟨.excl, sources⟩).sources ↔
        sa ∈ sources ∨ (∀ other, other ∉ sources) ∧ sa = mccIpAny := by
  rw [represent]
  split
  · rename_i hempty
    refine ⟨rfl, fun sa => ?_⟩
    have hnone : ∀ other, other ∉ sources :=
      Set.eq_empty_iff_forall_notMem.mp (congrArg SourceFilter.sources hempty)
    rw [or_iff_right (hnone sa), and_iff_right hnone]
    exact Set.mem_singleton_iff
  · rename_i hne
    refine ⟨rfl, fun sa => (or_iff_left ?_).symm⟩
    rintro ⟨hnone, -⟩
    exact hne (congrArg _ (Set.eq_empty_iff_forall_notMem.mpr hnone))

theorem represented_excl (sources : Set MccIpAddr) : (represented ⟨.excl, sources⟩).mode = .excl ∧
      ∀ sa, sa ∈ (represented ⟨.excl, sources⟩).sources ↔
        sa ∈ sources ∧ ∃ other, ¬(other ∈ sources ↔ other = mccIpAny) := by
  rw [represented]
  split
  · rename_i hany
    refine ⟨rfl, fun sa => iff_of_false (Set.notMem_empty sa) ?_⟩
    rintro ⟨-, other, hother⟩
    have hsources : sources = {mccIpAny} := congrArg SourceFilter.sources hany
    apply hother
    rw [hsources]
    exact Set.mem_singleton_iff
  · rename_i hne
    refine ⟨rfl, fun sa => (and_iff_left ?_).symm⟩
    by_contra hall
    rw [not_exists] at hall
    apply hne
    congr 1
    ext other
    exact (not_not.mp (hall other)).trans Set.mem_singleton_iff.symm

/-! ## What a record makes of the sources -/

section Cases

variable {clt : MccCltEntry} {sas : List MccIpAddr}

/-- Sources that are replaced by those of an INCLUDE. -/
theorem include_iff {own : MccIpAddr → Prop} :
    (∀ sa, sas ≠ [] ∧ own sa ∧ sa ≠ mccIpAny ↔ sa ∈ sas) ↔
      sas = [] ∨ mccIpAny ∉ sas ∧ (∀ sa, own sa → sa ∈ sas ∨ sa = mccIpAny) ∧
        ∀ sa ∈ sas, own sa := by
  constructor
  · intro h
    by_cases hsas : sas = []
    · exact Or.inl hsas
    · right
      refine ⟨fun hany => ((h mccIpAny).mpr hany).2.2 rfl, fun sa hown => ?_, fun sa hsa => ?_⟩
      · by_cases hany : sa = mccIpAny
        · exact Or.inr hany
        · exact Or.inl ((h sa).mp ⟨hsas, hown, hany⟩)
      · exact ((h sa).mpr hsa).2.1
  · rintro (rfl | ⟨hany, hown, hsas⟩) sa
    · exact iff_of_false (fun hboth => hboth.1 rfl) List.not_mem_nil
    · constructor
      · rintro ⟨-, hsa, hne⟩
        exact (hown sa hsa).resolve_right hne
      · intro hsa
        exact ⟨List.ne_nil_of_mem hsa, hsas sa hsa, fun heq => hany (heq ▸ hsa)⟩

end Cases

/-! ## The records -/

section Records

variable {clt new : MccCltEntry} {sas : List MccIpAddr}

/-- An INCLUDE. -/
theorem include_right_iff :
    (⟨.incl, {sa | sas ≠ [] ∧ clt.Lists .incl clt.smode sas sa ∧ sa ≠ mccIpAny}⟩ :
      SourceFilter MccIpAddr) = ⟨.incl, {sa | sa ∈ sas}⟩ ↔
      sas = [] ∨ mccIpAny ∉ sas ∧
        (clt.smode ≠ none → ∀ sa ∈ addrs clt.srcList.entries, sa ∈ sas ∨ sa = mccIpAny) ∧
        (clt.smode = some .block → ∀ sa ∈ sas, sa ∈ clt.left sas) := by
  rw [SourceFilter.mk.injEq, and_iff_right rfl, Set.ext_iff]
  simp only [Set.mem_ofPred_eq]
  rw [include_iff]
  refine or_congr_right (and_congr_right fun _ => ?_)
  cases hsmode : clt.smode with
  | none =>
      simp only [lists_none]
      exact iff_of_true ⟨fun sa hsa => Or.inl hsa, fun sa hsa => hsa⟩ ⟨nofun, nofun⟩
  | some smode =>
      rw [imp_iff_right (nofun : some smode ≠ none)]
      cases smode with
      | allow =>
          simp only [lists_add (show mccSrcListActionGet .incl (some .allow) = .add from rfl)]
          constructor
          · rintro ⟨hown, -⟩
            exact ⟨fun sa hsa => hown sa (Or.inr hsa), nofun⟩
          · rintro ⟨hown, -⟩
            exact ⟨fun sa hsa => hsa.elim Or.inl (hown sa), fun sa hsa => Or.inl hsa⟩
      | block =>
          simp only [lists_rem (show mccSrcListActionGet .incl (some .block) = .rem from rfl)]
          rw [left_subset_iff, imp_iff_right trivial]

/-- An EXCLUDE. -/
theorem exclude_right_iff :
    (⟨.excl, {sa | clt.Lists .excl clt.smode sas sa}⟩ : SourceFilter MccIpAddr) =
        ⟨.excl, {sa | sa ∈ sas}⟩ ↔ (clt.smode ≠ none → ∀ sa ∈ addrs clt.srcList.entries, sa ∈ sas) ∧
        (clt.smode = some .allow → ∀ sa ∈ sas, sa ∈ clt.left sas) := by
  rw [SourceFilter.mk.injEq, and_iff_right rfl, Set.ext_iff]
  simp only [Set.mem_ofPred_eq]
  cases hsmode : clt.smode with
  | none =>
      simp only [lists_none]
      exact iff_of_true (fun sa => trivial) ⟨nofun, nofun⟩
  | some smode =>
      rw [imp_iff_right (nofun : some smode ≠ none)]
      cases smode with
      | block =>
          simp only [lists_add (show mccSrcListActionGet .excl (some .block) = .add from rfl)]
          constructor
          · intro h
            exact ⟨fun sa hsa => (h sa).mp (Or.inr hsa), nofun⟩
          · rintro ⟨hown, -⟩ sa
            exact or_iff_left_of_imp (hown sa)
      | allow =>
          simp only [lists_rem (show mccSrcListActionGet .excl (some .allow) = .rem from rfl)]
          rw [imp_iff_right trivial]
          constructor
          · intro h
            refine ⟨fun sa hsa => ?_, fun sa hsa => (h sa).mpr hsa⟩
            by_contra hother
            exact hother ((h sa).mp (mem_left_of_notMem hsa hother))
          · rintro ⟨hown, hkept⟩ sa
            exact ⟨fun hleft => hown sa (mem_of_mem_left hleft), hkept sa⟩

/-- An ALLOW for a client that includes sources. -/
theorem allow_incl_right_iff (hne : sas ≠ []) :
    (⟨.incl, {sa | sas ≠ [] ∧ clt.Lists .incl (some .allow) sas sa ∧ sa ≠ mccIpAny}⟩ :
      SourceFilter MccIpAddr) =
        ⟨.incl, {sa | sa ∈ addrs clt.srcList.entries} ∪ {sa | sa ∈ sas}⟩ ↔
      mccIpAny ∉ sas ∧ mccIpAny ∉ addrs clt.srcList.entries := by
  rw [SourceFilter.mk.injEq, and_iff_right rfl, Set.ext_iff]
  simp only [Set.mem_ofPred_eq, Set.mem_union, and_iff_right hne,
    lists_add (show mccSrcListActionGet .incl (some .allow) = .add from rfl)]
  constructor
  · intro h
    exact ⟨fun hany => ((h mccIpAny).mpr (Or.inr hany)).2 rfl,
      fun hany => ((h mccIpAny).mpr (Or.inl hany)).2 rfl⟩
  · rintro ⟨hany, hany'⟩ sa
    constructor
    · exact fun hboth => hboth.1.symm
    · intro hsa
      refine ⟨hsa.symm, ?_⟩
      rintro rfl
      exact hsa.elim hany' hany

/-- A BLOCK for a client that includes sources. -/
theorem block_incl_right_iff (hne : sas ≠ []) :
    (⟨.incl, {sa | sas ≠ [] ∧ clt.Lists .incl (some .block) sas sa ∧ sa ≠ mccIpAny}⟩ :
      SourceFilter MccIpAddr) =
        ⟨.incl, {sa | sa ∈ addrs clt.srcList.entries} \ {sa | sa ∈ sas}⟩ ↔
      (∀ sa ∈ clt.left sas, sa ∈ sas → sa = mccIpAny) ∧
        (mccIpAny ∈ addrs clt.srcList.entries → mccIpAny ∈ sas) := by
  rw [SourceFilter.mk.injEq, and_iff_right rfl, Set.ext_iff]
  simp only [Set.mem_ofPred_eq, Set.mem_sdiff, and_iff_right hne,
    lists_rem (show mccSrcListActionGet .incl (some .block) = .rem from rfl)]
  constructor
  · intro h
    refine ⟨fun sa hleft hsas => ?_, fun hany => ?_⟩
    · by_contra hother
      exact ((h sa).mp ⟨hleft, hother⟩).2 hsas
    · by_contra hsas
      exact ((h mccIpAny).mpr ⟨hany, hsas⟩).2 rfl
  · rintro ⟨hleft, hany⟩ sa
    constructor
    · rintro ⟨hsa, hother⟩
      exact ⟨mem_of_mem_left hsa, fun hsas => hother (hleft sa hsa hsas)⟩
    · rintro ⟨hsa, hsas⟩
      refine ⟨mem_left_of_notMem hsa hsas, ?_⟩
      rintro rfl
      exact hsas (hany hsa)

/-- An ALLOW for a client that excludes sources. -/
theorem allow_excl_right_iff : (⟨.excl, {sa | sa ∈ clt.left sas}⟩ : SourceFilter MccIpAddr) =
        represent ((represented ⟨.excl, {sa | sa ∈ addrs clt.srcList.entries}⟩).receive
          (.allow {sa | sa ∈ sas})) ↔
      clt.left sas ≠ [] ∧
        ((∀ sa ∈ clt.left sas, sa ∉ sas) ∨ ∀ sa ∈ clt.left sas, sa = mccIpAny) := by
  obtain ⟨hmode, hsources⟩ := represented_excl {sa | sa ∈ addrs clt.srcList.entries}
  rw [receive_allow_of_excl hmode]
  obtain ⟨hmode', hsources'⟩ := represent_excl
    ((represented ⟨.excl, {sa | sa ∈ addrs clt.srcList.entries}⟩).sources \ {sa | sa ∈ sas})
  rw [SourceFilter.ext_iff, hmode', and_iff_right rfl, Set.ext_iff]
  simp only [hsources', Set.mem_sdiff, hsources, Set.mem_ofPred_eq]
  -- the sources that RFC 3376 leaves
  generalize hrest : (fun sa => (sa ∈ addrs clt.srcList.entries ∧
    ∃ other, ¬(other ∈ addrs clt.srcList.entries ↔ other = mccIpAny)) ∧ sa ∉ sas) = rest
  have hrest' : ∀ sa, rest sa ↔ (sa ∈ addrs clt.srcList.entries ∧
      ∃ other, ¬(other ∈ addrs clt.srcList.entries ↔ other = mccIpAny)) ∧ sa ∉ sas := by
    intro sa
    rw [← hrest]
  simp only [← hrest']
  have hleft : ∀ sa, rest sa → sa ∈ clt.left sas := by
    intro sa hsa
    obtain ⟨⟨hmem, -⟩, hsas⟩ := (hrest' sa).mp hsa
    exact mem_left_of_notMem hmem hsas
  constructor
  · intro h
    by_cases hnone : ∀ other, ¬rest other
    · refine ⟨List.ne_nil_of_mem ((h mccIpAny).mpr (Or.inr ⟨hnone, rfl⟩)), Or.inr fun sa hsa => ?_⟩
      exact (((h sa).mp hsa).resolve_left (hnone sa)).2
    · obtain ⟨other, hother⟩ := not_forall_not.mp hnone
      refine ⟨List.ne_nil_of_mem (hleft other hother), Or.inl fun sa hsa => ?_⟩
      have hsa' := ((h sa).mp hsa).resolve_right fun hdummy => hnone hdummy.1
      exact ((hrest' sa).mp hsa').2
  · rintro ⟨hne, hcase⟩ sa
    obtain ⟨first, hfirst⟩ := List.exists_mem_of_ne_nil _ hne
    cases hcase with
    | inl hall =>
        by_cases hdummy : ∀ other, other ∈ addrs clt.srcList.entries ↔ other = mccIpAny
        · -- no source was excluded
          have hnone : ∀ other, ¬rest other := by
            intro other hother
            obtain ⟨⟨-, witness, hwitness⟩, -⟩ := (hrest' other).mp hother
            exact hwitness (hdummy witness)
          rw [or_iff_right (hnone sa), and_iff_right hnone]
          constructor
          · exact fun hsa => (hdummy sa).mp (mem_of_mem_left hsa)
          · rintro rfl
            rwa [← (hdummy first).mp (mem_of_mem_left hfirst)]
        · have hsame : ∀ other, other ∈ clt.left sas ↔ rest other := by
            intro other
            rw [mem_left_iff hall, hrest', and_iff_left (not_forall.mp hdummy)]
          rw [← hsame sa]
          exact (or_iff_left fun hboth => hboth.1 first ((hsame first).mp hfirst)).symm
    | inr hany =>
        have hmem : mccIpAny ∈ clt.left sas := by rwa [← hany first hfirst]
        constructor
        · intro hsa
          rw [hany sa hsa]
          by_cases hrestAny : rest mccIpAny
          · exact Or.inl hrestAny
          · refine Or.inr ⟨fun other hother => hrestAny ?_, rfl⟩
            rwa [← hany other (hleft other hother)]
        · rintro (hsa | ⟨-, rfl⟩)
          · exact hleft sa hsa
          · exact hmem

/-- A BLOCK for a client that excludes sources. -/
theorem block_excl_right_iff (hne : sas ≠ []) :
    (⟨.excl, {sa | clt.Lists .excl (some .block) sas sa}⟩ : SourceFilter MccIpAddr) =
        represent ((represented ⟨.excl, {sa | sa ∈ addrs clt.srcList.entries}⟩).receive
          (.block {sa | sa ∈ sas})) ↔ (isAny clt.srcList.entries = true → mccIpAny ∈ sas) := by
  obtain ⟨hmode, hsources⟩ := represented_excl {sa | sa ∈ addrs clt.srcList.entries}
  rw [receive_block_of_excl hmode]
  obtain ⟨hmode', hsources'⟩ := represent_excl
    ((represented ⟨.excl, {sa | sa ∈ addrs clt.srcList.entries}⟩).sources ∪ {sa | sa ∈ sas})
  rw [SourceFilter.ext_iff, hmode', and_iff_right rfl, Set.ext_iff]
  simp only [hsources', Set.mem_union, hsources, Set.mem_ofPred_eq,
    lists_add (show mccSrcListActionGet .excl (some .block) = .add from rfl)]
  rw [isAny_iff]
  obtain ⟨first, hfirst⟩ := List.exists_mem_of_ne_nil sas hne
  constructor
  · intro h hdummy
    rcases (h mccIpAny).mp (Or.inr ((hdummy mccIpAny).mpr rfl)) with
      (⟨-, other, hother⟩ | hany) | ⟨hnone, -⟩
    · exact absurd (hdummy other) hother
    · exact hany
    · exact absurd (Or.inr hfirst) (hnone first)
  · intro hany sa
    constructor
    · rintro (hsa | hsa)
      · exact Or.inl (Or.inr hsa)
      · by_cases hdummy : ∀ other, other ∈ addrs clt.srcList.entries ↔ other = mccIpAny
        · rw [(hdummy sa).mp hsa]
          exact Or.inl (Or.inr (hany hdummy))
        · exact Or.inl (Or.inl ⟨hsa, not_forall.mp hdummy⟩)
    · rintro ((⟨hsa, -⟩ | hsa) | ⟨hnone, -⟩)
      · exact Or.inr hsa
      · exact Or.inl hsa
      · exact absurd (Or.inr hfirst) (hnone first)

end Records

/-! ## Reports -/

theorem stored_newClt (ca : MccIpAddr) : (newClt ca).stored = ⟨.incl, ∅⟩ := by
  rw [MccCltEntry.stored, newClt]
  congr 1
  exact Set.eq_empty_iff_forall_notMem.mpr fun sa => List.not_mem_nil

namespace MccCltList

variable {list : MccCltList} {pkt : MccPktRec}

/-- The clients after a record that has modes. -/
theorem report_entries {fmode : Option FilterMode} {smode : Option MccSrcMode}
    (hmodes : mccRecModes pkt.recType pkt.sas = some (fmode, smode)) :
    (list.report pkt).entries = upsert MccCltEntry.ca pkt.ca (newClt pkt.ca)
      (fun clt => mccCltRefresh (mccRecSources fmode pkt.sas)
        { clt with fmode := fmode.getD clt.fmode, smode := smode.or clt.smode })
      list.entries := by
  obtain ⟨rec, hrec, hca, hsrcList, hfmode, hsmode⟩ : ∃ rec, mccRecGet pkt = some rec ∧
      rec.ca = pkt.ca ∧ rec.srcList = mccRecSources fmode pkt.sas ∧ rec.fmode = fmode ∧
        rec.smode = smode := by
    rw [mccRecGet, hmodes]
    exact ⟨_, rfl, rfl, rfl, rfl, rfl⟩
  have hreport : (list.report pkt).entries = mccCltUpdate rec list.entries := by
    rw [report]
    split
    · rename_i hnone
      exact nomatch hnone.symm.trans hrec
    · rename_i found hfound
      rw [Option.some.inj (hfound.symm.trans hrec)]
  rw [hreport, mccCltUpdate, hca, hsrcList, hfmode, hsmode]
  rfl

theorem client_report {fmode : Option FilterMode} {smode : Option MccSrcMode}
    (hmodes : mccRecModes pkt.recType pkt.sas = some (fmode, smode)) :
    (list.report pkt).client pkt.ca =
      (mccCltRefresh (mccRecSources fmode pkt.sas)
        { list.client pkt.ca with
          fmode := fmode.getD (list.client pkt.ca).fmode
          smode := smode.or (list.client pkt.ca).smode }).getD (newClt pkt.ca) := by
  have hnew : (newClt pkt.ca).ca = pkt.ca := rfl
  rw [client, mccCltFind, report_entries hmodes, findKey_upsert_self list.nodup hnew]
  · rfl
  · exact fun _ _ h => (mccCltRefresh_frame h).1

theorem report_of_none (hmodes : mccRecModes pkt.recType pkt.sas = none) :
    list.report pkt = list := by
  have hnone : mccRecGet pkt = none := by rw [mccRecGet, hmodes, Option.map_none]
  rw [report]
  split
  · rfl
  · rename_i hsome
    exact nomatch hsome.symm.trans hnone

theorem client_report_of_ne {ca : MccIpAddr} (hca : ca ≠ pkt.ca) :
    (list.report pkt).client ca = list.client ca := by
  cases hmodes : mccRecModes pkt.recType pkt.sas with
  | none => rw [report_of_none hmodes]
  | some modes =>
      have hnew : (newClt pkt.ca).ca = pkt.ca := rfl
      rw [client, mccCltFind, report_entries hmodes, findKey_upsert_of_ne hca hnew]
      · rfl
      · exact fun _ _ h => (mccCltRefresh_frame h).1

/-- The client after an INCLUDE. -/
theorem include_report_iff (hmodes : mccRecModes pkt.recType pkt.sas = some (some .incl, none)) :
    (list.report pkt).stored pkt.ca = represent ⟨.incl, {sa | sa ∈ pkt.sas}⟩ ↔
      pkt.sas = [] ∨ mccIpAny ∉ pkt.sas ∧ ((list.client pkt.ca).smode ≠ none →
          ∀ sa ∈ addrs (list.client pkt.ca).srcList.entries, sa ∈ pkt.sas ∨ sa = mccIpAny) ∧
        ((list.client pkt.ca).smode = some .block →
          ∀ sa ∈ pkt.sas, sa ∈ (list.client pkt.ca).left pkt.sas) := by
  have hafter : (list.report pkt).stored pkt.ca = ⟨.incl, {sa | pkt.sas ≠ [] ∧
      (list.client pkt.ca).Lists .incl (list.client pkt.ca).smode pkt.sas sa ∧
        sa ≠ mccIpAny}⟩ := by
    rw [stored, client_report hmodes]
    exact stored_incl (stored_newClt _) nofun
  rw [hafter, represent_incl]
  exact include_right_iff

/-- The client after an EXCLUDE. -/
theorem exclude_report_iff (hmodes : mccRecModes pkt.recType pkt.sas = some (some .excl, none)) :
    (list.report pkt).stored pkt.ca = represent ⟨.excl, {sa | sa ∈ pkt.sas}⟩ ↔
      ((list.client pkt.ca).smode ≠ none → ∀ sa ∈ addrs (list.client pkt.ca).srcList.entries,
          sa ∈ if pkt.sas = [] then [mccIpAny] else pkt.sas) ∧
        ((list.client pkt.ca).smode = some .allow →
          ∀ sa ∈ if pkt.sas = [] then [mccIpAny] else pkt.sas,
            sa ∈ (list.client pkt.ca).left (if pkt.sas = [] then [mccIpAny] else pkt.sas)) := by
  have hne : (if pkt.sas = [] then [mccIpAny] else pkt.sas) ≠ [] := by
    split
    · exact List.cons_ne_nil _ _
    · assumption
  have hafter : (list.report pkt).stored pkt.ca = ⟨.excl, {sa |
      (list.client pkt.ca).Lists .excl (list.client pkt.ca).smode
        (if pkt.sas = [] then [mccIpAny] else pkt.sas) sa}⟩ := by
    rw [stored, client_report hmodes]
    refine stored_excl ?_ hne
    simp only [true_and]
  have hexpected : represent ⟨.excl, {sa | sa ∈ pkt.sas}⟩ =
      ⟨.excl, {sa | sa ∈ if pkt.sas = [] then [mccIpAny] else pkt.sas}⟩ := by
    obtain ⟨hmode, hsources⟩ := represent_excl {sa | sa ∈ pkt.sas}
    apply SourceFilter.ext hmode
    ext sa
    rw [hsources]
    by_cases hsas : pkt.sas = []
    · rw [if_pos hsas, hsas]
      have hnone : ∀ other : MccIpAddr, other ∉ {sa | sa ∈ ([] : List MccIpAddr)} :=
        fun _ => List.not_mem_nil
      rw [or_iff_right (hnone sa), and_iff_right hnone]
      exact List.mem_singleton.symm
    · rw [if_neg hsas]
      obtain ⟨first, hfirst⟩ := List.exists_mem_of_ne_nil _ hsas
      exact or_iff_left fun hboth => hboth.1 first hfirst
  rw [hafter, hexpected]
  exact exclude_right_iff

theorem stored_eq (list : MccCltList) (ca : MccIpAddr) {fmode : FilterMode}
    (hfmode : (list.client ca).fmode = fmode) :
    list.stored ca = ⟨fmode, {sa | sa ∈ addrs (list.client ca).srcList.entries}⟩ := by
  rw [stored, MccCltEntry.stored, hfmode]

/-- Without sources nothing is to change, and the filter is to be represented as it is. -/
theorem represented_iff {record : FilterRecord MccIpAddr}
    (hrecord : record = .allow ∅ ∨ record = .block ∅) (ca : MccIpAddr) :
    list.stored ca = represent ((represented (list.stored ca)).receive record) ↔
      ((list.client ca).fmode = .excl → (list.client ca).srcList.entries ≠ []) := by
  cases hfmode : (list.client ca).fmode with
  | incl =>
      have hstays : (represented (list.stored ca)).receive record = list.stored ca := by
        rw [stored_eq list ca hfmode, represented_incl]
        rcases hrecord with rfl | rfl
        · exact congrArg _ (Set.union_empty _)
        · exact congrArg _ Set.sdiff_empty
      rw [hstays, stored_eq list ca hfmode, represent_incl]
      exact iff_of_true rfl nofun
  | excl =>
      -- it is as if nothing was allowed
      have hallow : (represented (list.stored ca)).receive record =
          (represented (list.stored ca)).receive (.allow {sa | sa ∈ ([] : List MccIpAddr)}) := by
        have hempty : {sa : MccIpAddr | sa ∈ ([] : List MccIpAddr)} = ∅ :=
          Set.eq_empty_iff_forall_notMem.mpr fun _ => List.not_mem_nil
        have hmode := (represented_excl {sa | sa ∈ addrs (list.client ca).srcList.entries}).1
        rw [hempty]
        rcases hrecord with rfl | rfl
        · rfl
        · rw [stored_eq list ca hfmode, receive_allow_of_excl hmode, receive_block_of_excl hmode,
            Set.union_empty, Set.sdiff_empty]
      have hleft := @allow_excl_right_iff (list.client ca) []
      rw [left_nil] at hleft
      rw [hallow, stored_eq list ca hfmode, hleft, imp_iff_right rfl, ne_eq, List.map_eq_nil_iff]
      exact and_iff_left (Or.inl fun _ _ => List.not_mem_nil)

theorem none_ne_some {fmode : FilterMode} : (none : Option FilterMode) ≠ some fmode := nofun

/-- The client after an ALLOW. -/
theorem allow_report_iff (hsas : pkt.sas ≠ [])
    (hmodes : mccRecModes pkt.recType pkt.sas = some (none, some .allow)) :
    (list.report pkt).stored pkt.ca = represent ((represented (list.stored pkt.ca)).receive
        (.allow {sa | sa ∈ pkt.sas})) ↔
      match (list.client pkt.ca).fmode with
      | .incl => mccIpAny ∉ pkt.sas ∧ mccIpAny ∉ addrs (list.client pkt.ca).srcList.entries
      | .excl => (list.client pkt.ca).left pkt.sas ≠ [] ∧
          ((∀ sa ∈ (list.client pkt.ca).left pkt.sas, sa ∉ pkt.sas) ∨
            ∀ sa ∈ (list.client pkt.ca).left pkt.sas, sa = mccIpAny) := by
  have hafter := congrArg MccCltEntry.stored (@client_report list pkt _ _ hmodes)
  simp only [Option.getD_none, Option.some_or] at hafter
  rw [stored, hafter]
  cases hfmode : (list.client pkt.ca).fmode with
  | incl =>
      rw [stored_eq list pkt.ca hfmode, represented_incl,
        stored_incl (stored_newClt _) none_ne_some]
      exact (represent_incl _).symm ▸ allow_incl_right_iff hsas
  | excl =>
      rw [stored_eq list pkt.ca hfmode,
        stored_excl (if_neg fun h => none_ne_some h.1).symm hsas]
      have hleft : {sa | (list.client pkt.ca).Lists .excl (some .allow) pkt.sas sa} =
          {sa | sa ∈ (list.client pkt.ca).left pkt.sas} := by
        ext sa
        exact lists_rem (show mccSrcListActionGet .excl (some .allow) = .rem from rfl)
      rw [hleft]
      exact allow_excl_right_iff

/-- The client after a BLOCK. -/
theorem block_report_iff (hsas : pkt.sas ≠ [])
    (hmodes : mccRecModes pkt.recType pkt.sas = some (none, some .block)) :
    (list.report pkt).stored pkt.ca = represent ((represented (list.stored pkt.ca)).receive
        (.block {sa | sa ∈ pkt.sas})) ↔
      match (list.client pkt.ca).fmode with
      | .incl =>
          (∀ sa ∈ (list.client pkt.ca).left pkt.sas, sa ∈ pkt.sas → sa = mccIpAny) ∧
            (mccIpAny ∈ addrs (list.client pkt.ca).srcList.entries → mccIpAny ∈ pkt.sas)
      | .excl => isAny (list.client pkt.ca).srcList.entries = true → mccIpAny ∈ pkt.sas := by
  have hafter := congrArg MccCltEntry.stored (@client_report list pkt _ _ hmodes)
  simp only [Option.getD_none, Option.some_or] at hafter
  rw [stored, hafter]
  cases hfmode : (list.client pkt.ca).fmode with
  | incl =>
      rw [stored_eq list pkt.ca hfmode, represented_incl,
        stored_incl (stored_newClt _) none_ne_some]
      exact (represent_incl _).symm ▸ block_incl_right_iff hsas
  | excl =>
      rw [stored_eq list pkt.ca hfmode,
        stored_excl (if_neg fun h => none_ne_some h.1).symm hsas]
      exact block_excl_right_iff hsas

/-- The filter of the client after a record. -/
theorem stored_report_iff : (list.report pkt).stored pkt.ca =
        represent ((represented (list.stored pkt.ca)).receive pkt.meaning) ↔
      CltGuard (list.client pkt.ca) pkt := by
  have hempty : {sa : MccIpAddr | sa ∈ ([] : List MccIpAddr)} = ∅ :=
    Set.eq_empty_iff_forall_notMem.mpr fun _ => List.not_mem_nil
  cases hrec : pkt.recType with
  | isInclude | changeToInclude =>
      rw [MccPktRec.meaning, CltGuard, hrec]
      exact include_report_iff (by rw [hrec]; rfl)
  | isExclude | changeToExclude =>
      rw [MccPktRec.meaning, CltGuard, hrec]
      exact exclude_report_iff (by rw [hrec]; rfl)
  | allowNewSources =>
      rw [MccPktRec.meaning, CltGuard, hrec]
      dsimp only
      by_cases hsas : pkt.sas = []
      · have hmodes : mccRecModes pkt.recType pkt.sas = none := by
          rw [hrec, hsas]
          rfl
        rw [report_of_none hmodes, hsas, represented_iff (Or.inl (congrArg _ hempty))]
        cases (list.client pkt.ca).fmode with
        | incl => exact iff_of_true nofun (Or.inl rfl)
        | excl =>
            rw [imp_iff_right rfl, left_nil, ne_eq, ne_eq, List.map_eq_nil_iff]
            exact (and_iff_left (Or.inl fun _ _ => List.not_mem_nil)).symm
      · have hmodes : mccRecModes pkt.recType pkt.sas = some (none, some .allow) := by
          rw [hrec]
          exact if_neg hsas
        rw [allow_report_iff hsas hmodes]
        cases (list.client pkt.ca).fmode with
        | incl => exact (or_iff_right hsas).symm
        | excl => exact Iff.rfl
  | blockOldSources =>
      rw [MccPktRec.meaning, CltGuard, hrec]
      dsimp only
      by_cases hsas : pkt.sas = []
      · have hmodes : mccRecModes pkt.recType pkt.sas = none := by
          rw [hrec, hsas]
          rfl
        rw [report_of_none hmodes, hsas, represented_iff (Or.inr (congrArg _ hempty))]
        cases (list.client pkt.ca).fmode with
        | incl => exact iff_of_true nofun (Or.inl rfl)
        | excl => exact (imp_iff_right rfl).trans (iff_of_eq (if_pos rfl)).symm
      · have hmodes : mccRecModes pkt.recType pkt.sas = some (none, some .block) := by
          rw [hrec]
          exact if_neg hsas
        rw [block_report_iff hsas hmodes]
        cases (list.client pkt.ca).fmode with
        | incl => exact (or_iff_right hsas).symm
        | excl => exact (iff_of_eq (if_neg hsas)).symm

end MccCltList

/-! ## Runs -/

def cltStep (list : MccCltList) (pkt : MccPktRec) : Option MccCltList := some (list.report pkt)

/-- In a run of records from any clients, the filters of the clients are those of RFC 3376 exactly
if every record meets the guard. -/
theorem cltRecords_iff (start : MccCltList) (pkts : List MccPktRec) :
    Along cltStep CltRight start pkts ↔
      Along cltStep (fun before pkt _ => CltGuard (before.client pkt.ca) pkt) start pkts := by
  refine along_iff_guard (fun before pkt after (_ : True) hstep => ?_) trivial pkts
  obtain rfl := Option.some.inj hstep
  refine ⟨?_, fun _ => trivial⟩
  rw [CltRight, MccCltList.stored_report_iff]
  refine and_iff_left fun ca hca => ?_
  rw [MccCltList.stored, MccCltList.stored, MccCltList.client_report_of_ne hca]

def sampleRecord (recType : MccProtRecType) (sas : List MccIpAddr) : MccPktRec :=
  ⟨0, 0, 0, 0, 0xe1, 1, recType, sas⟩

/-- After an ALLOW an INCLUDE adds its source to the others. -/
theorem cltRecords_staleAllow :
    ¬∀ (start : MccCltList) (pkts : List MccPktRec), Along cltStep CltRight start pkts := by
  intro h
  have hrun := h ⟨[], List.nodup_nil⟩
    [sampleRecord .allowNewSources [7], sampleRecord .isInclude [8]]
  have hright := hrun.2.1.1
  have hstale : (7 : MccIpAddr) ∈ addrs
      ((((⟨[], List.nodup_nil⟩ : MccCltList).report (sampleRecord .allowNewSources [7])).report
        (sampleRecord .isInclude [8])).client 1).srcList.entries := by
    decide +kernel
  have hsources := congrArg SourceFilter.sources
    (hright.trans (represent_incl {sa | sa ∈ ([8] : List MccIpAddr)}))
  have hmem : (7 : MccIpAddr) ∈ ([8] : List MccIpAddr) := (Set.ext_iff.mp hsources 7).mp hstale
  exact absurd hmem (by decide +kernel)

end FalconGpon.Mcc
