/-
# The row that a rule matches

`omci_api_find_ext_vlan_rule` goes through all rows of the table and gives up if more than one
matches. Two rows are apart if some field of a rule cannot be in both; all rows are apart from
each other but two pairs, so the rules of these two pairs are the only ambiguous ones.
-/

import FalconGpon.Vlan.Rules

namespace FalconGpon.Vlan

variable {f : VlanFilter}

/-- What the scan from row `i` on can come to. -/
inductive ScanOutcome (f : VlanFilter) (rows : List VlanFilter) (i m bestMatch : Nat) :
    Nat × Nat → Prop
  | noMatch (hnone : ∀ (k : Nat) (row : VlanFilter), rows[k]? = some row → ¬row.Matches f) :
      ScanOutcome f rows i m bestMatch (m, bestMatch)
  | oneMatch (k : Nat) (row : VlanFilter) (hrow : rows[k]? = some row) (hmatch : row.Matches f)
      (hunique : ∀ (k' : Nat) (row' : VlanFilter),
        rows[k']? = some row' → row'.Matches f → k' = k) :
      ScanOutcome f rows i m bestMatch (m + 1, i + k)
  | multiMatch (k k' : Nat) (row row' : VlanFilter) (hlt : k < k')
      (hrow : rows[k]? = some row) (hmatch : row.Matches f)
      (hrow' : rows[k']? = some row') (hmatch' : row'.Matches f)
      (result : Nat × Nat) (hcount : m + 2 ≤ result.1) :
      ScanOutcome f rows i m bestMatch result

theorem findLoop_outcome (f : VlanFilter) (rows : List VlanFilter) (i m bestMatch : Nat) :
    ScanOutcome f rows i m bestMatch (findLoop f rows i m bestMatch) := by
  induction rows generalizing i m bestMatch with
  | nil => exact .noMatch fun k row hrow => by simp at hrow
  | cons head rows ih =>
      rw [findLoop]
      by_cases hhead : head.Matches f
      · rw [if_pos hhead]
        have houtcome := ih (i + 1) (m + 1) i
        generalize findLoop f rows (i + 1) (m + 1) i = result at houtcome ⊢
        cases houtcome with
        | noMatch hnone =>
            refine .oneMatch 0 head rfl hhead fun k row hrow hmatch => ?_
            cases k with
            | zero => rfl
            | succ k => exact absurd hmatch (hnone k row hrow)
        | oneMatch k row hrow hmatch =>
            exact .multiMatch 0 (k + 1) head row (Nat.succ_pos k) rfl hhead hrow hmatch _
              (le_refl _)
        | multiMatch k k' row row' hlt hrow hmatch hrow' hmatch' _ hcount =>
            exact .multiMatch 0 (k + 1) head row (Nat.succ_pos k) rfl hhead hrow hmatch _
              (by omega)
      · rw [if_neg hhead]
        have houtcome := ih (i + 1) m bestMatch
        generalize findLoop f rows (i + 1) m bestMatch = result at houtcome ⊢
        cases houtcome with
        | noMatch hnone =>
            refine .noMatch fun k row hrow => ?_
            cases k with
            | zero => exact Option.some.inj hrow ▸ hhead
            | succ k => exact hnone k row hrow
        | oneMatch k row hrow hmatch hunique =>
            have hplace : i + 1 + k = i + (k + 1) := by omega
            rw [hplace]
            refine .oneMatch (k + 1) row hrow hmatch fun k' row' hrow' hmatch' => ?_
            cases k' with
            | zero => exact absurd (Option.some.inj hrow' ▸ hmatch') hhead
            | succ k' => exact congrArg (· + 1) (hunique k' row' hrow' hmatch')
        | multiMatch k k' row row' hlt hrow hmatch hrow' hmatch' _ hcount =>
            exact .multiMatch (k + 1) (k' + 1) row row' (Nat.succ_lt_succ hlt) hrow hmatch hrow'
              hmatch' _ hcount

/-- A row is found if it matches and no other row does. -/
theorem findExtVlanRule_eq_some_iff {n : Nat} :
    findExtVlanRule f = some n ↔ (∃ row, omciRules[n]? = some row ∧ row.Matches f) ∧
        ∀ k row, omciRules[k]? = some row → row.Matches f → k = n := by
  have houtcome := findLoop_outcome f omciRules 0 0 0
  rw [findExtVlanRule]
  generalize findLoop f omciRules 0 0 0 = result at houtcome ⊢
  cases houtcome with
  | noMatch hnone =>
      constructor
      · intro hfound
        simp at hfound
      · intro h
        obtain ⟨⟨row, hrow, hmatch⟩, -⟩ := h
        exact absurd hmatch (hnone n row hrow)
  | oneMatch k row hrow hmatch hunique =>
      have hfound : (if 0 + 1 = 0 then none
          else if 1 < 0 + 1 then none else some (0 + k)) = some k := by simp
      dsimp only
      rw [hfound]
      constructor
      · intro hsome
        rw [← Option.some.inj hsome]
        exact ⟨⟨row, hrow, hmatch⟩, hunique⟩
      · intro h
        exact congrArg some (h.2 k row hrow hmatch)
  | multiMatch k k' row row' hlt hrow hmatch hrow' hmatch' _ hcount =>
      have hmany : 1 < result.1 := by omega
      have hsome : ¬result.1 = 0 := by omega
      rw [if_neg hsome, if_pos hmany]
      constructor
      · intro hfound
        cases hfound
      · intro h
        have hk := h.2 k row hrow hmatch
        have hk' := h.2 k' row' hrow' hmatch'
        omega

/-- The values that a field of a rule may have. -/
structure Span where
  low : Option Int
  high : Int
deriving DecidableEq

namespace Span

def Has (s : Span) (v : Int) : Prop :=
  (∀ low, s.low = some low → low ≤ v) ∧ v ≤ s.high

def apart (s s' : Span) : Bool :=
  s.low.any (s'.high < ·) || s'.low.any (s.high < ·)

def upTo (any : Bool) (bound row : Int) : Span :=
  if any then ⟨none, bound⟩ else ⟨some row, row⟩

theorem not_apart {s s' : Span} {v : Int} (h : s.Has v) (h' : s'.Has v) : s.apart s' = false := by
  have hlow : s.low.any (s'.high < ·) = false := by
    cases hs : s.low with
    | none => rfl
    | some low =>
        have hle := h.1 low hs
        have hle' := h'.2
        simp only [Option.any_some, decide_eq_false_iff_not]
        omega
  have hlow' : s'.low.any (s.high < ·) = false := by
    cases hs : s'.low with
    | none => rfl
    | some low =>
        have hle := h'.1 low hs
        have hle' := h.2
        simp only [Option.any_some, decide_eq_false_iff_not]
        omega
  rw [apart, hlow, hlow', Bool.or_false]

theorem has_upTo {any : Bool} {bound row v : Int} (h : if any then v ≤ bound else row = v) :
    (upTo any bound row).Has v := by
  rw [upTo]
  cases any with
  | false =>
      have hv : row = v := h
      rw [hv]
      exact ⟨fun low hlow => le_of_eq (Option.some.inj hlow).symm, le_refl v⟩
  | true => exact ⟨nofun, h⟩

end Span

namespace VlanFilter

/-- The ethertypes that the row takes. -/
def etherSpan (row : VlanFilter) : Span :=
  if row.filterEthertype = m04 then ⟨some 0, 4⟩
  else if row.filterEthertype = m14 then ⟨some 1, 4⟩
  else ⟨some row.filterEthertype, row.filterEthertype⟩

def outerSpan (row : VlanFilter) : Span :=
  .upTo (row.filterOuterPriority = ps ∨ row.filterOuterPriority = m07) 7 row.filterOuterPriority

def innerSpan (row : VlanFilter) : Span :=
  .upTo (row.filterInnerPriority = pc) 7 row.filterInnerPriority

def innerVidSpan (row : VlanFilter) : Span :=
  .upTo (row.filterInnerVid = vidc) 4095 row.filterInnerVid

def newOuterSpan (row : VlanFilter) : Span :=
  .upTo (row.treatmentOuterPriority = m07) 7 row.treatmentOuterPriority

/-- The priorities to generate for the inner tag that the row takes. -/
def newInnerSpan (row : VlanFilter) : Span :=
  if row.treatmentInnerPriority = 8 ∨ row.treatmentInnerPriority = 9 then ⟨some 8, 9⟩
  else
    .upTo (row.treatmentInnerPriority = px ∨ row.treatmentInnerPriority = m07) 7
      row.treatmentInnerPriority

/-- No rule matches both rows. -/
def apart (row row' : VlanFilter) : Bool :=
  row.treatmentTagsToRemove ≠ row'.treatmentTagsToRemove ||
    row.etherSpan.apart row'.etherSpan || row.outerSpan.apart row'.outerSpan ||
    row.innerSpan.apart row'.innerSpan ||
    (row.filterInnerPriority < 13 && row'.filterInnerPriority < 13 &&
      row.innerVidSpan.apart row'.innerVidSpan) ||
    row.newOuterSpan.apart row'.newOuterSpan || row.newInnerSpan.apart row'.newInnerSpan

namespace Matches

variable {row row' : VlanFilter}

theorem etherSpan (h : row.Matches f) : row.etherSpan.Has f.filterEthertype := by
  have hether := h.ethertype
  rw [VlanFilter.etherSpan]
  split
  · next hrow =>
      rw [if_pos hrow] at hether
      exact ⟨fun low hlow => Option.some.inj hlow ▸ hether.1, hether.2⟩
  · next hrow =>
      rw [if_neg hrow] at hether
      split
      · next hrow' =>
          rw [if_pos hrow'] at hether
          exact ⟨fun low hlow => Option.some.inj hlow ▸ hether.1, hether.2⟩
      · next hrow' =>
          rw [if_neg hrow'] at hether
          exact ⟨fun low hlow => Option.some.inj hlow ▸ le_of_eq hether, le_of_eq hether.symm⟩

theorem outerSpan (h : row.Matches f) : row.outerSpan.Has f.filterOuterPriority :=
  Span.has_upTo h.outerPriority

theorem innerSpan (h : row.Matches f) : row.innerSpan.Has f.filterInnerPriority :=
  Span.has_upTo h.innerPriority

theorem innerVidSpan (h : row.Matches f) (hlt : row.filterInnerPriority < 13) :
    row.innerVidSpan.Has f.filterInnerVid := by
  apply Span.has_upTo
  simpa only [decide_eq_true_eq] using h.innerVid hlt

theorem newOuterSpan (h : row.Matches f) : row.newOuterSpan.Has f.treatmentOuterPriority :=
  Span.has_upTo h.treatmentOuterPriority

/-- A row that copies the inner priority matches rules that copy it. -/
theorem copied (h : row.Matches f)
    (hrow : row.treatmentInnerPriority = 8 ∨ row.treatmentInnerPriority = 9) :
    f.treatmentInnerPriority = 8 ∨ f.treatmentInnerPriority = 9 := by
  rcases h.treatmentInnerPriority with hprio | hprio | hprio
  · exact .inr hprio.2
  · exact .inl hprio.2
  · have hclass : ¬(row.treatmentInnerPriority = px ∨ row.treatmentInnerPriority = m07) := by
      rcases hrow with hrow | hrow <;> rw [hrow] <;> decide
    rw [priorityMatches, decide_eq_false hclass] at hprio
    exact hprio ▸ hrow

theorem newInnerSpan (h : row.Matches f) : row.newInnerSpan.Has f.treatmentInnerPriority := by
  have hprio := h.treatmentInnerPriority
  rw [VlanFilter.newInnerSpan]
  split
  · next hrow =>
      have hcopied := h.copied hrow
      refine ⟨fun low hlow => ?_, ?_⟩
      · rw [← Option.some.inj hlow]
        omega
      · exact show f.treatmentInnerPriority ≤ 9 by omega
  · next hrow =>
      rcases hprio with hprio | hprio | hprio
      · exact absurd (.inl hprio.1) hrow
      · exact absurd (.inr hprio.1) hrow
      · exact Span.has_upTo hprio

theorem not_apart (h : row.Matches f) (h' : row'.Matches f) : row.apart row' = false := by
  have hremove := h.tagsToRemove.trans h'.tagsToRemove.symm
  have hvid : (row.filterInnerPriority < 13 && row'.filterInnerPriority < 13 &&
      row.innerVidSpan.apart row'.innerVidSpan) = false := by
    by_cases hlow : row.filterInnerPriority < 13 ∧ row'.filterInnerPriority < 13
    · rw [Span.not_apart (h.innerVidSpan hlow.1) (h'.innerVidSpan hlow.2), Bool.and_false]
    · simp only [Bool.and_eq_false_imp, Bool.and_eq_true, decide_eq_true_eq]
      exact fun hboth => absurd hboth hlow
  rw [apart, hvid, Span.not_apart h.etherSpan h'.etherSpan,
    Span.not_apart h.outerSpan h'.outerSpan, Span.not_apart h.innerSpan h'.innerSpan,
    Span.not_apart h.newOuterSpan h'.newOuterSpan, Span.not_apart h.newInnerSpan h'.newInnerSpan]
  simp [hremove]

end Matches

end VlanFilter

theorem omciRules_apart : ∀ p ∈ omciRules.zipIdx, ∀ p' ∈ omciRules.zipIdx, p'.2 < p.2 →
    p.1.apart p'.1 = true ∨ (p'.2 = 14 ∧ p.2 = 15) ∨ (p'.2 = 21 ∧ p.2 = 22) := by
  decide +kernel

/-- The rules for which two rows of the table match: drop single-tagged frames of any VID, and
add two tags to single-tagged frames of a given VID. -/
def VlanFilter.Ambiguous (f : VlanFilter) : Prop :=
  (∃ row, omciRules[14]? = some row ∧ row.Matches f) ∨
    ∃ row, omciRules[21]? = some row ∧ row.Matches f

theorem ambiguous_of_lt {k k' : Nat} {row row' : VlanFilter} (hlt : k' < k)
    (hrow : omciRules[k]? = some row) (hrow' : omciRules[k']? = some row')
    (hmatch : row.Matches f) (hmatch' : row'.Matches f) : f.Ambiguous := by
  have hmem := List.mk_mem_zipIdx_iff_getElem?.mpr hrow
  have hmem' := List.mk_mem_zipIdx_iff_getElem?.mpr hrow'
  rcases omciRules_apart (row, k) hmem (row', k') hmem' hlt with hapart | ⟨h14, -⟩ | ⟨h21, -⟩
  · rw [hmatch.not_apart hmatch'] at hapart
    cases hapart
  · exact .inl ⟨row', h14 ▸ hrow', hmatch'⟩
  · exact .inr ⟨row', h21 ▸ hrow', hmatch'⟩

theorem matches_pair {k : Nat} (hk : k = 14 ∨ k = 21) {row : VlanFilter}
    (hrow : omciRules[k]? = some row) (hmatch : row.Matches f) :
    ∃ row', omciRules[k + 1]? = some row' ∧ row'.Matches f := by
  rcases hk with rfl | rfl
  · refine ⟨_, rfl, ?_⟩
    cases hrow
    exact ⟨hmatch.tagsToRemove, hmatch.ethertype, hmatch.outerPriority, hmatch.innerPriority,
      hmatch.outerVid, hmatch.innerVid, hmatch.treatmentOuterPriority,
      hmatch.treatmentInnerPriority, hmatch.treatmentOuterVid, hmatch.treatmentInnerVid⟩
  · exact ⟨row, hrow, hmatch⟩

/-- A row is found for a rule if some row matches it and it is not ambiguous. -/
theorem exists_findExtVlanRule_iff : (∃ n, findExtVlanRule f = some n) ↔
      (∃ row ∈ omciRules, row.Matches f) ∧ ¬f.Ambiguous := by
  constructor
  · intro h
    obtain ⟨n, hn⟩ := h
    obtain ⟨⟨row, hrow, hmatch⟩, hunique⟩ := findExtVlanRule_eq_some_iff.mp hn
    refine ⟨⟨row, List.mem_of_getElem? hrow, hmatch⟩, ?_⟩
    rintro (⟨row', hrow', hmatch'⟩ | ⟨row', hrow', hmatch'⟩)
    · obtain ⟨other, hother, hmatchOther⟩ := matches_pair (.inl rfl) hrow' hmatch'
      have hfirst := hunique 14 row' hrow' hmatch'
      have hsecond := hunique 15 other hother hmatchOther
      omega
    · obtain ⟨other, hother, hmatchOther⟩ := matches_pair (.inr rfl) hrow' hmatch'
      have hfirst := hunique 21 row' hrow' hmatch'
      have hsecond := hunique 22 other hother hmatchOther
      omega
  · intro h
    obtain ⟨⟨row, hmem, hmatch⟩, hclear⟩ := h
    obtain ⟨n, hrow⟩ := List.getElem?_of_mem hmem
    refine ⟨n, findExtVlanRule_eq_some_iff.mpr ⟨⟨row, hrow, hmatch⟩, ?_⟩⟩
    intro k row' hrow' hmatch'
    rcases Nat.lt_trichotomy k n with hlt | heq | hlt
    · exact absurd (ambiguous_of_lt hlt hrow hrow' hmatch hmatch') hclear
    · exact heq
    · exact absurd (ambiguous_of_lt hlt hrow' hrow hmatch' hmatch) hclear

theorem not_matches_sixteen {row : VlanFilter} (hrow : omciRules[16]? = some row)
    (hvid : 0 ≤ f.filterInnerVid) : ¬row.Matches f := by
  intro hmatch
  cases hrow
  have hequal : vids = f.filterInnerVid := hmatch.innerVid (by decide)
  have hnegative : vids < 0 := by decide
  omega

end FalconGpon.Vlan
