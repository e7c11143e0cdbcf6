/-
# The sources of a client

What `mcc_clt_refresh` makes of the sources of a client: a record adds to them, removes from
them, or, where no source mode was ever set, replaces them. Only sources that are as static as
the client are removed.
-/

import FalconGpon.Mcc.Record

namespace FalconGpon.Mcc

open FalconGpon.Lib

/-! ## Adding and removing -/

section Change

variable {list : List MccSrcEntry} {own : MccSrcList} {e : MccSrcEntry} {sa : MccIpAddr}

/-- An address that is erased is gone. -/
theorem mem_erase : e ∈ (own.erase sa).entries ↔ e ∈ own.entries ∧ e.sa ≠ sa := by
  have herase : ∀ entries : List MccSrcEntry, (addrs entries).Nodup →
      (e ∈ entries.eraseP (·.sa = sa) ↔ e ∈ entries ∧ e.sa ≠ sa) := by
    intro entries hnodup
    induction entries with
    | nil => simp
    | cons x rest ih =>
        obtain ⟨hx, hrest⟩ := List.nodup_cons.mp hnodup
        by_cases hsa : x.sa = sa
        · have hother : e ∈ rest → e.sa ≠ sa := by
            intro he hsame
            exact hx ((hsa.trans hsame.symm) ▸ List.mem_map_of_mem he)
          rw [List.eraseP_cons_of_pos (by simpa using hsa), List.mem_cons]
          refine ⟨fun he => ⟨.inr he, hother he⟩, fun ⟨he, hne⟩ => ?_⟩
          exact he.resolve_left fun hex => hne (hex ▸ hsa)
        · rw [List.eraseP_cons_of_neg (by simpa using hsa), List.mem_cons, List.mem_cons, ih hrest,
            or_and_right]
          refine or_congr_left (and_iff_left_of_imp ?_).symm
          rintro rfl
          exact hsa
  exact herase own.entries own.nodup

theorem mem_addrs_erase {other : MccIpAddr} :
    sa ∈ addrs (own.erase other).entries ↔ sa ∈ addrs own.entries ∧ sa ≠ other := by
  constructor
  · intro hsa
    obtain ⟨e, he, rfl⟩ := List.mem_map.mp hsa
    obtain ⟨hown, hne⟩ := mem_erase.mp he
    exact ⟨List.mem_map_of_mem hown, hne⟩
  · rintro ⟨hsa, hne⟩
    obtain ⟨e, he, rfl⟩ := List.mem_map.mp hsa
    exact List.mem_map_of_mem (mem_erase.mpr ⟨he, hne⟩)

theorem mem_addrs_mccCltSources_add {isStatic : Bool} :
    sa ∈ addrs (mccCltSources .add isStatic list own).entries ↔
      sa ∈ addrs list ∨ sa ∈ addrs own.entries := by
  induction list generalizing own with
  | nil => exact (or_iff_right (List.not_mem_nil)).symm
  | cons r rest ih =>
      have hadd : sa ∈ addrs (own.add { r with ibwAny := false }).entries ↔
          sa ∈ addrs own.entries ∨ sa = r.sa := mem_addrs_slistAdd
      have hcons : sa ∈ addrs (r :: rest) ↔ sa = r.sa ∨ sa ∈ addrs rest := List.mem_cons
      have hrest : sa ∈ addrs (mccCltSources .add isStatic (r :: rest) own).entries ↔
          sa ∈ addrs rest ∨ sa ∈ addrs (own.add { r with ibwAny := false }).entries := ih
      rw [hrest, hadd, hcons]
      tauto

/-- Only what is as static as the client is removed. -/
theorem mem_mccCltSources_rem {isStatic : Bool} :
    e ∈ (mccCltSources .rem isStatic list own).entries ↔
      e ∈ own.entries ∧ ¬ (e.sa ∈ addrs list ∧ e.isStatic = isStatic) := by
  induction list generalizing own with
  | nil => exact (and_iff_left fun h => List.not_mem_nil h.1).symm
  | cons r rest ih =>
      have hstep : ∀ next : MccSrcList,
          (e ∈ next.entries ↔ e ∈ own.entries ∧ ¬ (e.sa = r.sa ∧ e.isStatic = isStatic)) →
          (e ∈ (mccCltSources .rem isStatic rest next).entries ↔
            e ∈ own.entries ∧ ¬ (e.sa ∈ addrs (r :: rest) ∧ e.isStatic = isStatic)) := by
        intro next hnext
        have hcons : e.sa ∈ addrs (r :: rest) ↔ e.sa = r.sa ∨ e.sa ∈ addrs rest := List.mem_cons
        rw [ih, hnext, hcons]
        tauto
      cases hfind : mccSrcFind own.entries r.sa with
      | none =>
          have hsame : mccCltSources .rem isStatic (r :: rest) own =
              mccCltSources .rem isStatic rest own := by
            simp [mccCltSources, hfind]
          have hnone : e ∈ own.entries → ¬ (e.sa = r.sa ∧ e.isStatic = isStatic) := by
            intro he hboth
            have hne := List.find?_eq_none.mp hfind e he
            exact hne (decide_eq_true hboth.1)
          rw [hsame]
          exact hstep own (and_iff_left_of_imp hnone).symm
      | some src =>
          have hsrc : src.sa = r.sa :=
            key_findKey (show findKey MccSrcEntry.sa r.sa own.entries = some src from hfind)
          have hfound : e ∈ own.entries → e.sa = r.sa → e = src := by
            intro he hsa
            exact List.inj_on_of_nodup_map own.nodup he (List.mem_of_find?_eq_some hfind)
              (hsa.trans hsrc.symm)
          by_cases hstatic : src.isStatic = isStatic
          · have herase : mccCltSources .rem isStatic (r :: rest) own =
                mccCltSources .rem isStatic rest (own.erase r.sa) := by
              simp [mccCltSources, hfind, hstatic]
            rw [herase]
            apply hstep
            rw [mem_erase]
            refine and_congr_right fun he => not_congr (and_iff_left_of_imp fun hsa => ?_).symm
            rw [hfound he hsa, hstatic]
          · have hsame : mccCltSources .rem isStatic (r :: rest) own =
                mccCltSources .rem isStatic rest own := by
              simp [mccCltSources, hfind, hstatic]
            have hnone : e ∈ own.entries → ¬ (e.sa = r.sa ∧ e.isStatic = isStatic) := by
              intro he hboth
              rw [hfound he hboth.1] at hboth
              exact hstatic hboth.2
            rw [hsame]
            exact hstep own (and_iff_left_of_imp hnone).symm

def mccCltOwn (srcList : MccSrcList) (clt : MccCltEntry) : MccSrcList :=
  mccCltSources (mccSrcListActionGet clt.fmode clt.smode) clt.isStatic srcList.entries
    (if clt.smode = none then .empty else clt.srcList)

end Change

/-! ## Lists and sets of sources -/

section Sources

variable {clt : MccCltEntry} {sas : List MccIpAddr} {sa : MccIpAddr}

/-- What is left of the sources of a client when a list of them is removed: those that are as
static as the client go. -/
def MccCltEntry.left (clt : MccCltEntry) (sas : List MccIpAddr) : List MccIpAddr :=
  addrs (clt.srcList.entries.filter fun e => ¬(e.sa ∈ sas ∧ e.isStatic = clt.isStatic))

theorem mem_left : sa ∈ clt.left sas ↔ ∃ e ∈ clt.srcList.entries, e.sa = sa ∧
    ¬(sa ∈ sas ∧ e.isStatic = clt.isStatic) := by
  rw [MccCltEntry.left, List.mem_map]
  constructor
  · rintro ⟨e, he, rfl⟩
    obtain ⟨hmem, hkept⟩ := List.mem_filter.mp he
    exact ⟨e, hmem, rfl, of_decide_eq_true hkept⟩
  · rintro ⟨e, he, rfl, hkept⟩
    exact ⟨e, List.mem_filter.mpr ⟨he, decide_eq_true hkept⟩, rfl⟩

/-- A list with the dummy entry alone. -/
theorem isAny_iff : isAny clt.srcList.entries = true ↔
    ∀ sa, sa ∈ addrs clt.srcList.entries ↔ sa = mccIpAny := by
  have hnodup := clt.srcList.nodup
  generalize clt.srcList.entries = list at hnodup
  match list, hnodup with
  | [], _ => exact iff_of_false nofun fun h => List.not_mem_nil ((h mccIpAny).mpr rfl)
  | [e], _ =>
      rw [isAny, decide_eq_true_iff]
      constructor
      · rintro hany sa
        rw [← hany]
        exact List.mem_singleton
      · intro h
        exact (h e.sa).mp (List.mem_singleton_self _)
  | e :: next :: rest, hnodup =>
      refine iff_of_false nofun fun h => ?_
      have hne := (List.nodup_cons.mp hnodup).1
      have hsame : e.sa = next.sa := ((h e.sa).mp List.mem_cons_self).trans
        ((h next.sa).mp (List.mem_cons_of_mem _ List.mem_cons_self)).symm
      exact hne (hsame ▸ List.mem_cons_self)

theorem mem_of_mem_left (h : sa ∈ clt.left sas) : sa ∈ addrs clt.srcList.entries := by
  obtain ⟨e, he, rfl, -⟩ := mem_left.mp h
  exact List.mem_map_of_mem he

theorem mem_left_of_notMem (h : sa ∈ addrs clt.srcList.entries) (hsas : sa ∉ sas) :
    sa ∈ clt.left sas := by
  obtain ⟨e, he, rfl⟩ := List.mem_map.mp h
  exact mem_left.mpr ⟨e, he, rfl, fun hboth => hsas hboth.1⟩

theorem mem_left_congr {sas' : List MccIpAddr} (h : ∀ sa, sa ∈ sas ↔ sa ∈ sas') :
    sa ∈ clt.left sas ↔ sa ∈ clt.left sas' := by
  rw [mem_left, mem_left, h]

/-- The source is listed after a refresh, the dummy entry aside. -/
def MccCltEntry.Lists (clt : MccCltEntry) (fmode : FilterMode) (smode : Option MccSrcMode)
    (sas : List MccIpAddr) (sa : MccIpAddr) : Prop :=
  match mccSrcListActionGet fmode smode with
  | .add => sa ∈ sas ∨ smode ≠ none ∧ sa ∈ addrs clt.srcList.entries
  | .rem => sa ∈ clt.left sas

variable {fmode : FilterMode} {smode : MccSrcMode}

theorem lists_none : clt.Lists fmode none sas sa ↔ sa ∈ sas := by
  have hadd : mccSrcListActionGet fmode none = .add := by cases fmode <;> rfl
  rw [MccCltEntry.Lists, hadd]
  exact or_iff_left fun hstale => hstale.1 rfl

theorem lists_add (hadd : mccSrcListActionGet fmode (some smode) = .add) :
    clt.Lists fmode (some smode) sas sa ↔ sa ∈ sas ∨ sa ∈ addrs clt.srcList.entries := by
  rw [MccCltEntry.Lists, hadd]
  exact or_congr_right (and_iff_right nofun)

theorem lists_rem (hrem : mccSrcListActionGet fmode (some smode) = .rem) :
    clt.Lists fmode (some smode) sas sa ↔ sa ∈ clt.left sas := by
  rw [MccCltEntry.Lists, hrem]

theorem mem_addrs_own {srcList : MccSrcList} {smode : Option MccSrcMode}
    (hsas : ∀ sa, sa ∈ addrs srcList.entries ↔ sa ∈ sas) :
    sa ∈ addrs (mccCltOwn srcList { clt with fmode := fmode, smode := smode }).entries ↔
      clt.Lists fmode smode sas sa := by
  unfold mccCltOwn MccCltEntry.Lists
  dsimp only
  cases haction : mccSrcListActionGet fmode smode with
  | add =>
      rw [mem_addrs_mccCltSources_add, hsas]
      by_cases hsmode : smode = none
      · simp [hsmode, MccSrcList.empty]
      · rw [if_neg hsmode, and_iff_right hsmode]
  | rem =>
      have hsmode : smode ≠ none := by
        rintro rfl
        cases haction
      rw [if_neg hsmode]
      dsimp only
      rw [← mem_left_congr hsas, mem_left, List.mem_map]
      constructor
      · rintro ⟨e, he, rfl⟩
        obtain ⟨hown, hkept⟩ := mem_mccCltSources_rem.mp he
        exact ⟨e, hown, rfl, hkept⟩
      · rintro ⟨e, hown, rfl, hkept⟩
        exact ⟨e, mem_mccCltSources_rem.mpr ⟨hown, hkept⟩, rfl⟩

variable {fmode : Option FilterMode}

theorem mem_addrs_mccRecSources :
    sa ∈ addrs (mccRecSources fmode sas).entries ↔
      sa ∈ if fmode = some .excl ∧ sas = [] then [mccIpAny] else sas := by
  have hfold : ∀ (list : MccSrcList) (sas : List MccIpAddr),
      sa ∈ addrs (sas.foldl (fun list sa => list.add ⟨sa, 0, false, false⟩) list).entries ↔
        sa ∈ addrs list.entries ∨ sa ∈ sas := by
    intro list sas
    induction sas generalizing list with
    | nil => exact (or_iff_left List.not_mem_nil).symm
    | cons new rest ih =>
        have hadd : sa ∈ addrs (list.add ⟨new, 0, false, false⟩).entries ↔
            sa ∈ addrs list.entries ∨ sa = new := mem_addrs_slistAdd
        rw [List.foldl_cons, ih, hadd, List.mem_cons, or_assoc]
  exact (hfold .empty _).trans (or_iff_right List.not_mem_nil)


theorem mem_left_iff (h : ∀ sa ∈ clt.left sas, sa ∉ sas) :
    sa ∈ clt.left sas ↔ sa ∈ addrs clt.srcList.entries ∧ sa ∉ sas := by
  constructor
  · exact fun hleft => ⟨mem_of_mem_left hleft, h sa hleft⟩
  · exact fun hsa => mem_left_of_notMem hsa.1 hsa.2

theorem left_subset_iff {Q : MccIpAddr → Prop} : (∀ sa, sa ∈ clt.left sas → sa ∈ sas ∨ Q sa) ↔
      ∀ sa ∈ addrs clt.srcList.entries, sa ∈ sas ∨ Q sa := by
  constructor
  · intro h sa hsa
    by_cases hmem : sa ∈ sas
    · exact Or.inl hmem
    · exact h sa (mem_left_of_notMem hsa hmem)
  · exact fun h sa hsa => h sa (mem_of_mem_left hsa)

theorem left_nil (clt : MccCltEntry) : clt.left [] = addrs clt.srcList.entries := by
  simp [MccCltEntry.left]

theorem mccRecSources_ne_nil :
    (mccRecSources fmode sas).entries ≠ [] ↔ fmode = some .excl ∨ sas ≠ [] := by
  rw [← exists_mem_addrs]
  simp only [mem_addrs_mccRecSources]
  by_cases hdummy : fmode = some .excl ∧ sas = []
  · rw [if_pos hdummy]
    exact iff_of_true ⟨mccIpAny, List.mem_singleton_self _⟩ (Or.inl hdummy.1)
  · rw [if_neg hdummy]
    constructor
    · rintro ⟨sa, hsa⟩
      exact Or.inr (List.ne_nil_of_mem hsa)
    · intro h
      apply List.exists_mem_of_ne_nil
      rintro rfl
      exact hdummy ⟨h.resolve_right fun hne => hne rfl, rfl⟩

end Sources

/-! ## A refresh -/

def MccCltEntry.stored (clt : MccCltEntry) : SourceFilter MccIpAddr :=
  ⟨clt.fmode, {sa | sa ∈ addrs clt.srcList.entries}⟩

section Refreshed

variable {srcList : MccSrcList} {clt new : MccCltEntry} {sas : List MccIpAddr}

theorem mccCltRefresh_incl {srcList : MccSrcList} {clt after : MccCltEntry}
    (hmode : clt.fmode = .incl) :
    mccCltRefresh srcList clt = some after ↔
      (((mccCltOwn srcList clt).erase mccIpAny).entries ≠ [] ∧ srcList.entries ≠ []) ∧
        { clt with srcList := (mccCltOwn srcList clt).erase mccIpAny } = after := by
  rw [mccCltRefresh, Option.ite_none_left_eq_some, Option.some.injEq]
  simp only [hmode, if_true, true_or, and_true, not_or]
  rw [← hmode]
  rfl

theorem mccCltRefresh_excl {srcList : MccSrcList} {clt after : MccCltEntry}
    (hmode : clt.fmode = .excl) :
    mccCltRefresh srcList clt = some after ↔
      (clt.smode = some .block → (mccCltOwn srcList clt).entries ≠ []) ∧
        { clt with srcList := mccCltOwn srcList clt } = after := by
  rw [mccCltRefresh, Option.ite_none_left_eq_some, Option.some.injEq]
  have hne : FilterMode.excl ≠ FilterMode.incl := by decide
  simp only [hmode, hne, if_false, false_or, and_false, or_false, not_and]
  rw [← hmode]
  refine and_congr_left fun _ => ?_
  exact ⟨fun h hblock hempty => h hempty hblock, fun h hempty hblock => h hblock hempty⟩

/-- The filter of a client that includes sources. -/
theorem stored_refresh_incl (hmode : clt.fmode = .incl) (hnew : new.stored = ⟨.incl, ∅⟩) :
    ((mccCltRefresh srcList clt).getD new).stored =
      ⟨.incl, {sa | srcList.entries ≠ [] ∧ sa ∈ addrs (mccCltOwn srcList clt).entries ∧
        sa ≠ mccIpAny}⟩ := by
  cases hrefresh : mccCltRefresh srcList clt with
  | some after =>
      obtain ⟨⟨hown, hlist⟩, rfl⟩ := (mccCltRefresh_incl hmode).mp hrefresh
      rw [Option.getD_some, MccCltEntry.stored]
      dsimp only
      rw [hmode]
      congr 1
      ext sa
      rw [Set.mem_ofPred_eq, Set.mem_ofPred_eq, and_iff_right hlist]
      exact mem_addrs_erase
  | none =>
      rw [Option.getD_none, hnew]
      congr 1
      symm
      rw [Set.eq_empty_iff_forall_notMem]
      rintro sa ⟨hlist, hsa⟩
      have hown := exists_mem_addrs.mp ⟨sa, mem_addrs_erase.mpr hsa⟩
      have hsome := (mccCltRefresh_incl hmode).mpr ⟨⟨hown, hlist⟩, rfl⟩
      exact nomatch hrefresh.symm.trans hsome

theorem stored_refresh_excl (hmode : clt.fmode = .excl)
    (hown : clt.smode = some .block → (mccCltOwn srcList clt).entries ≠ []) :
    ((mccCltRefresh srcList clt).getD new).stored =
      ⟨.excl, {sa | sa ∈ addrs (mccCltOwn srcList clt).entries}⟩ := by
  rw [(mccCltRefresh_excl hmode).mpr ⟨hown, rfl⟩, Option.getD_some, MccCltEntry.stored]
  dsimp only
  rw [hmode]

variable {fmode : Option FilterMode} {smode : Option MccSrcMode}

/-- The client after a record with the modes. -/
theorem stored_incl (hnew : new.stored = ⟨.incl, ∅⟩) (hfmode : fmode ≠ some .excl) :
    ((mccCltRefresh (mccRecSources fmode sas)
        { clt with fmode := .incl, smode := smode }).getD new).stored =
      ⟨.incl, {sa | sas ≠ [] ∧ clt.Lists .incl smode sas sa ∧ sa ≠ mccIpAny}⟩ := by
  have hsas : ∀ sa, sa ∈ addrs (mccRecSources fmode sas).entries ↔ sa ∈ sas := by
    intro sa
    rw [mem_addrs_mccRecSources, if_neg fun h => hfmode h.1]
  have hne : (mccRecSources fmode sas).entries ≠ [] ↔ sas ≠ [] := by
    rw [mccRecSources_ne_nil]
    exact or_iff_right hfmode
  rw [stored_refresh_incl rfl hnew]
  congr 1
  ext sa
  rw [Set.mem_ofPred_eq, Set.mem_ofPred_eq, hne, mem_addrs_own hsas]

theorem stored_excl {recSas : List MccIpAddr}
    (hrecSas : recSas = if fmode = some .excl ∧ sas = [] then [mccIpAny] else sas)
    (hne : recSas ≠ []) :
    ((mccCltRefresh (mccRecSources fmode sas)
        { clt with fmode := .excl, smode := smode }).getD new).stored =
      ⟨.excl, {sa | clt.Lists .excl smode recSas sa}⟩ := by
  have hsas : ∀ sa, sa ∈ addrs (mccRecSources fmode sas).entries ↔ sa ∈ recSas := by
    intro sa
    rw [mem_addrs_mccRecSources, hrecSas]
  have hblock : smode = some .block → (mccCltOwn (mccRecSources fmode sas)
      { clt with fmode := .excl, smode := smode }).entries ≠ [] := by
    rintro rfl
    obtain ⟨sa, hsa⟩ := List.exists_mem_of_ne_nil recSas hne
    exact exists_mem_addrs.mp ⟨sa, (mem_addrs_own hsas).mpr ((lists_add rfl).mpr (Or.inl hsa))⟩
  rw [stored_refresh_excl rfl hblock]
  congr 1
  ext sa
  exact mem_addrs_own hsas

end Refreshed

end FalconGpon.Mcc
