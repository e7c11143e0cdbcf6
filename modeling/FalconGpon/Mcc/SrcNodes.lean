/-
# Source lists and their entries

`mcc_src_list_clean` and `mcc_src_list_subtract` delete entries while they walk over them. Here
they run over the entries themselves, and end with a fault where they read one that they have
freed: the first when the next entry that its outer loop remembers is a duplicate, the second
when the second list goes on behind the source that it has found.
-/

import FalconGpon.Lib.NodeList
import FalconGpon.Mcc.AccessControl

namespace FalconGpon.Mcc

open FalconGpon.Lib

/-- `struct mcc_list` of sources. -/
abbrev SrcNodes := NodeList MccSrcEntry

abbrev SrcResult := Except ListFault SrcNodes

namespace SrcNodes

/-- `mcc_src_delete`. -/
def mccSrcDelete (list : SrcNodes) (p : Nat) : SrcResult :=
  if list.nodes.length = 0 then .ok list
  else (list.read p).map fun _ => list.delete p

/-- The body of the first loop of `mcc_src_list_clean`. -/
def collapseBody (p : Nat) (list : SrcNodes) : SrcResult := do
  let e ← list.read p
  if e.val.sa = mccIpAny then .ok list else mccSrcDelete list p

/-- The body of the inner loop of `mcc_src_list_clean`. -/
def duplicateBody (ref p : Nat) (list : SrcNodes) : SrcResult := do
  if ref = p then .ok list
  else
    let refE ← list.read ref
    let e ← list.read p
    if refE.val.sa = e.val.sa then mccSrcDelete list p else .ok list

/-- `mcc_src_list_clean`. -/
def mccSrcListClean (list : SrcNodes) : SrcResult := do
  if list.nodes.length = 0 then .ok list
  else
    let list ← if (mccSrcFind list.vals mccIpAny).isSome then
        NodeList.forEachSafe collapseBody list
      else .ok list
    NodeList.forEachSafe (fun ref list => NodeList.forEachSafe (duplicateBody ref) list) list

/-- The inner loop of `mcc_src_list_subtract`, over the second list. -/
def subtractBody (list2 : List MccSrcEntry) (p : Nat) (list1 : SrcNodes) : SrcResult :=
  match list2 with
  | [] => .ok list1
  | e2 :: rest => do
      let e1 ← list1.read p
      if e1.val.sa = e2.sa then
        let list1 ← mccSrcDelete list1 p
        subtractBody rest p list1
      else subtractBody rest p list1

/-- `mcc_src_list_subtract`. -/
def mccSrcListSubtract (list1 : SrcNodes) (list2 : List MccSrcEntry) : SrcResult :=
  if list1.nodes.length = 0 ∨ list2.length = 0 then .ok list1
  else NodeList.forEachSafe (subtractBody list2) list1

/-! ## What they are for -/

/-- What is left of a list that is cleaned. -/
structure Cleaned (list kept : List MccSrcEntry) : Prop where
  sublist : kept.Sublist list
  any : mccIpAny ∈ addrs list → addrs kept = [mccIpAny]
  once : mccIpAny ∉ addrs list →
    ∀ sa, (addrs kept).count sa = if sa ∈ addrs list then 1 else 0

/-- The call ends, with what it should leave; so it reads no entry that it has freed. -/
def CleanRight (list : SrcNodes) : Prop :=
  ∃ kept, mccSrcListClean list = .ok kept ∧ Cleaned list.vals kept.vals

def SubtractRight (list1 : SrcNodes) (list2 : List MccSrcEntry) : Prop :=
  ∃ kept, mccSrcListSubtract list1 list2 = .ok kept ∧
    kept.vals = list1.vals.filter fun e1 => e1.sa ∉ addrs list2

/-- Any source comes once; without it, no source is followed by its own duplicate, once those of
the sources in front are gone. -/
def CleanGuard (list : List MccSrcEntry) : Prop :=
  if mccIpAny ∈ addrs list then (addrs list).count mccIpAny = 1 else ¬ Adjoins [] list

/-- What both lists have is the last of the second and comes once in it. -/
def SubtractGuard (list1 list2 : List MccSrcEntry) : Prop :=
  ∀ e1 ∈ list1, e1.sa ∈ addrs list2 →
    ∃ init last, list2 = init ++ [last] ∧ last.sa = e1.sa ∧ e1.sa ∉ addrs init

/-! ## The bodies -/

section Bodies

variable {list : SrcNodes} {n ref : Node MccSrcEntry} {list2 : List MccSrcEntry}

theorem mccSrcDelete_eq (hn : n ∈ list.nodes) :
    mccSrcDelete list n.addr = .ok (list.delete n.addr) := by
  have hsome : list.nodes.length ≠ 0 := List.length_pos_of_mem hn |>.ne'
  rw [mccSrcDelete, if_neg hsome, NodeList.read_of_mem hn]
  rfl

theorem collapseBody_eq (hn : n ∈ list.nodes) :
    collapseBody n.addr list =
      .ok (if decide (n.val.sa = mccIpAny) then list else list.delete n.addr) := by
  rw [collapseBody, NodeList.read_of_mem hn]
  by_cases hany : n.val.sa = mccIpAny
  · simp only [hany, decide_true, if_true]
    exact if_pos hany
  · simp only [hany, decide_false, Bool.false_eq_true, if_false]
    exact (if_neg hany).trans (mccSrcDelete_eq hn)

theorem duplicateBody_eq (href : ref ∈ list.nodes) (hn : n ∈ list.nodes) :
    duplicateBody ref.addr n.addr list =
      .ok (if decide (n.addr = ref.addr ∨ n.val.sa ≠ ref.val.sa) then list
        else list.delete n.addr) := by
  unfold duplicateBody
  by_cases hsame : ref.addr = n.addr
  · rw [if_pos hsame, if_pos (decide_eq_true (.inl hsame.symm))]
  · rw [if_neg hsame, NodeList.read_of_mem href, NodeList.read_of_mem hn]
    by_cases hsa : ref.val.sa = n.val.sa
    · have hdrop : ¬ (n.addr = ref.addr ∨ n.val.sa ≠ ref.val.sa) := by
        intro h
        cases h with
        | inl h => exact hsame h.symm
        | inr h => exact h hsa.symm
      rw [decide_eq_false hdrop, if_neg Bool.false_ne_true]
      exact (if_pos hsa).trans (mccSrcDelete_eq hn)
    · rw [if_pos (decide_eq_true (.inr (Ne.symm hsa)))]
      exact if_neg hsa

theorem forEachSafe_duplicateBody (href : ref ∈ list.nodes) :
    NodeList.forEachSafe (duplicateBody ref.addr) list =
      .ok (list.filter fun n => n.addr = ref.addr ∨ n.val.sa ≠ ref.val.sa) := by
  apply NodeList.forEachSafe_eq
  intro l' _ hkept n hn
  have hl' : ref ∈ l'.nodes := hkept ref href (decide_eq_true (.inl rfl))
  exact duplicateBody_eq hl' hn

theorem subtractBody_of_not_mem (hn : n ∈ list.nodes) (hout : n.val.sa ∉ addrs list2) :
    subtractBody list2 n.addr list = .ok list := by
  induction list2 with
  | nil => rfl
  | cons e2 rest ih =>
      have hhead : n.val.sa ≠ e2.sa := fun hsame => hout (hsame ▸ List.mem_cons_self)
      have hrest : n.val.sa ∉ addrs rest := fun hin => hout (List.mem_cons_of_mem _ hin)
      rw [subtractBody, NodeList.read_of_mem hn]
      exact (if_neg hhead).trans (ih hrest)

theorem subtractBody_append {init rest : List MccSrcEntry} {e2 : MccSrcEntry}
    (hn : n ∈ list.nodes) (hinit : n.val.sa ∉ addrs init) (hsame : n.val.sa = e2.sa) :
    subtractBody (init ++ e2 :: rest) n.addr list =
      subtractBody rest n.addr (list.delete n.addr) := by
  induction init with
  | nil =>
      rw [List.nil_append, subtractBody, NodeList.read_of_mem hn]
      refine (if_pos hsame).trans ?_
      rw [mccSrcDelete_eq hn]
      rfl
  | cons e init ih =>
      have hhead : n.val.sa ≠ e.sa := fun hsame => hinit (hsame ▸ List.mem_cons_self)
      rw [List.cons_append, subtractBody, NodeList.read_of_mem hn]
      exact (if_neg hhead).trans (ih fun hin => hinit (List.mem_cons_of_mem _ hin))

end Bodies

/-! ## Cleaning -/

section Clean

variable {list : SrcNodes} {entries : List MccSrcEntry} {seen : List MccIpAddr}

theorem mccSrcListUnique_of_adjoins (h : Adjoins seen entries) :
    mccSrcListUnique seen entries = none := by
  have ⟨before, e, between, other, after, hentries, hsame, hnew, hbetween⟩ := h
  clear h
  subst hentries
  induction before generalizing seen with
  | nil =>
      rw [addrs, List.map_nil, List.append_nil] at hnew
      have hpass : between.find? (·.sa ∉ seen) = none := by
        apply List.find?_eq_none.mpr
        intro entry hentry
        simpa using hbetween entry hentry
      have hother : other.sa ∉ seen := hsame ▸ hnew
      have hfind : (between ++ other :: after).find? (·.sa ∉ seen) = some other := by
        rw [List.find?_append, hpass, Option.none_or, List.find?_cons_of_pos (by simpa using hother)]
      rw [List.nil_append, mccSrcListUnique, if_neg hnew, hfind]
      exact if_pos (decide_eq_true hsame)
  | cons b before ih =>
      rw [List.cons_append, mccSrcListUnique]
      split
      · rename_i hb
        have hmem : ∀ sa, sa ∈ seen ++ addrs before ↔ sa ∈ seen ++ addrs (b :: before) := by
          intro sa
          rw [List.mem_append, List.mem_append, mem_addrs_cons]
          constructor
          · exact Or.imp_right .inr
          · rintro (hin | rfl | hin)
            · exact .inl hin
            · exact .inl hb
            · exact .inr hin
        exact ih (mt (hmem _).mp hnew) fun entry hentry => (hmem _).mpr (hbetween entry hentry)
      · split
        · rfl
        · have hmem : ∀ sa, sa ∈ (b.sa :: seen) ++ addrs before ↔
              sa ∈ seen ++ addrs (b :: before) := by
            intro sa
            rw [List.mem_append, List.mem_append, mem_addrs_cons, List.mem_cons, or_assoc,
              or_left_comm]
          rw [ih (mt (hmem _).mp hnew) fun entry hentry => (hmem _).mpr (hbetween entry hentry)]
          rfl

theorem mccSrcListUnique_eq_none_iff : mccSrcListUnique seen entries = none ↔ Adjoins seen entries :=
  ⟨adjoins_of_mccSrcListUnique, mccSrcListUnique_of_adjoins⟩

/-- How a walk over the entries ends when the list of their values is cleaned to `kept`. -/
def Ends (result : SrcResult) : Option (List MccSrcEntry) → Prop
  | some kept => ∃ l, result = .ok l ∧ l.vals = kept
  | none => ∃ p, result = .error (.freed p)

/-- The inner loop for an entry behind those in `passed`. -/
theorem nodes_filter_passed {passed rest : List (Node MccSrcEntry)} {n : Node MccSrcEntry}
    (hpassed : ∀ m ∈ passed, m.val.sa ∈ seen) (hseen : n.val.sa ∉ seen)
    (hnodes : list.nodes = passed ++ n :: rest.filter (·.val.sa ∉ seen)) :
    (list.filter fun m => m.addr = n.addr ∨ m.val.sa ≠ n.val.sa).nodes =
      (passed ++ [n]) ++ rest.filter (·.val.sa ∉ n.val.sa :: seen) := by
  have ⟨_, hapart⟩ := NodeList.addr_ne hnodes
  have hfirst : ∀ m ∈ passed, decide (m.addr = n.addr ∨ m.val.sa ≠ n.val.sa) = true := by
    intro m hm
    exact decide_eq_true (.inr fun hsame => hseen (hsame ▸ hpassed m hm))
  have hsecond : (rest.filter (·.val.sa ∉ seen)).filter
        (fun m => m.addr = n.addr ∨ m.val.sa ≠ n.val.sa) =
      rest.filter (·.val.sa ∉ n.val.sa :: seen) := by
    rw [List.filter_filter]
    apply List.filter_congr
    intro m hm
    by_cases hold : m.val.sa ∈ seen
    · simp [hold]
    · have hne := hapart m (List.mem_filter.mpr ⟨hm, decide_eq_true hold⟩)
      simp [hold, hne]
  rw [NodeList.nodes_filter, hnodes, List.filter_append, List.filter_cons_of_pos (by simp),
    List.filter_eq_self.mpr hfirst, hsecond, List.append_assoc, List.singleton_append]

/-- The remembered entry is still the next one, unless it has the source. -/
theorem head?_filter_seen {rest : List (Node MccSrcEntry)} {sa : MccIpAddr}
    (hnext : ((rest.map Node.val).find? (·.sa ∉ seen)).any (·.sa = sa) = false) :
    (rest.filter (·.val.sa ∉ seen)).head? = (rest.filter (·.val.sa ∉ sa :: seen)).head? := by
  have hsplit : rest.filter (·.val.sa ∉ sa :: seen) =
      (rest.filter (·.val.sa ∉ seen)).filter (·.val.sa ≠ sa) := by
    rw [List.filter_filter]
    apply List.filter_congr
    intro m _
    simp
  have hfind : (rest.map Node.val).find? (·.sa ∉ seen) =
      (rest.filter (·.val.sa ∉ seen)).head?.map Node.val := by
    rw [List.head?_filter, List.find?_map]
    rfl
  rw [hfind] at hnext
  rw [hsplit]
  cases hhead : rest.filter (·.val.sa ∉ seen) with
  | nil => rfl
  | cons m later =>
      rw [hhead] at hnext
      have hne : m.val.sa ≠ sa := of_decide_eq_false hnext
      rw [List.filter_cons_of_pos (by simpa using hne)]
      rfl

/-- The outer loop, where the entries in `passed` are done with and those of the sources in `seen`
were deleted. -/
theorem ends_walk {passed orig : List (Node MccSrcEntry)} {fuel : Nat}
    (hpassed : ∀ n ∈ passed, n.val.sa ∈ seen)
    (hnodes : list.nodes = passed ++ orig.filter (·.val.sa ∉ seen))
    (hfuel : (orig.filter (·.val.sa ∉ seen)).length ≤ fuel) :
    Ends (NodeList.walk (fun ref list => NodeList.forEachSafe (duplicateBody ref) list) fuel
        ((orig.filter (·.val.sa ∉ seen)).head?.map Node.addr) list)
      ((mccSrcListUnique seen (orig.map Node.val)).map (passed.map Node.val ++ ·)) := by
  induction orig generalizing seen passed list fuel with
  | nil =>
      rw [List.filter_nil, List.head?_nil, Option.map_none, NodeList.walk_none]
      have hvals : list.vals = passed.map Node.val ++ [] := by
        rw [NodeList.vals, hnodes, List.filter_nil, List.map_append, List.map_nil]
      exact ⟨list, rfl, hvals⟩
  | cons n rest ih =>
      rw [List.map_cons, mccSrcListUnique]
      by_cases hseen : n.val.sa ∈ seen
      · have hskip : (n :: rest).filter (·.val.sa ∉ seen) = rest.filter (·.val.sa ∉ seen) :=
          List.filter_cons_of_neg (by simpa using hseen)
        rw [hskip] at hnodes hfuel ⊢
        rw [if_pos hseen]
        exact ih hpassed hnodes hfuel
      · have htake : (n :: rest).filter (·.val.sa ∉ seen) = n :: rest.filter (·.val.sa ∉ seen) :=
          List.filter_cons_of_pos (by simpa using hseen)
        rw [htake] at hnodes hfuel ⊢
        rw [if_neg hseen]
        have hmem : n ∈ list.nodes := hnodes ▸ List.mem_append_right _ List.mem_cons_self
        cases fuel with
        | zero => cases hfuel
        | succ fuel =>
            have hmore := Nat.le_of_succ_le_succ hfuel
            have hleft := nodes_filter_passed hpassed hseen hnodes
            rw [List.head?_cons, Option.map_some, NodeList.walk_some hnodes,
              forEachSafe_duplicateBody hmem]
            cases hnext : ((rest.map Node.val).find? (·.sa ∉ seen)).any (·.sa = n.val.sa) with
            | true =>
                rw [List.find?_map] at hnext
                obtain ⟨_, hfound, hsame⟩ := (Option.any_eq_true _ _).mp hnext
                obtain ⟨m, hm, hval⟩ := Option.map_eq_some_iff.mp hfound
                subst hval
                have hhead : (rest.filter (·.val.sa ∉ seen)).head? = some m := by
                  rw [List.head?_filter]
                  exact hm
                have hrest : m ∈ rest.filter (·.val.sa ∉ seen) := List.mem_of_mem_head? hhead
                have hfreed : ∀ x ∈ (list.filter fun m => m.addr = n.addr ∨
                    m.val.sa ≠ n.val.sa).nodes, x.addr ≠ m.addr := by
                  apply NodeList.filter_freed
                  · rw [hnodes]
                    exact List.mem_append_right _ (List.mem_cons_of_mem _ hrest)
                  · have hne := (NodeList.addr_ne hnodes).2 m hrest
                    simpa [hne] using hsame
                rw [hhead]
                cases fuel with
                | zero =>
                    rw [List.length_eq_zero_iff.mp (Nat.le_zero.mp hmore)] at hrest
                    cases hrest
                | succ fuel =>
                    have hrun := @NodeList.walk_freed _ _ m.addr
                      (fun ref list => NodeList.forEachSafe (duplicateBody ref) list) fuel hfreed
                    exact ⟨m.addr, hrun⟩
            | false =>
                have hshort : (rest.filter (·.val.sa ∉ n.val.sa :: seen)).length ≤ fuel := by
                  have hsub : (rest.filter (·.val.sa ∉ n.val.sa :: seen)).length ≤
                      (rest.filter (·.val.sa ∉ seen)).length := by
                    rw [← List.countP_eq_length_filter, ← List.countP_eq_length_filter]
                    apply List.countP_mono_left
                    intro m _ hm
                    simp only [List.mem_cons, not_or, decide_eq_true_eq] at hm ⊢
                    exact hm.2
                  exact hsub.trans hmore
                have hdone : ∀ m ∈ passed ++ [n], m.val.sa ∈ n.val.sa :: seen := by
                  intro m hm
                  cases List.mem_append.mp hm with
                  | inl hin => exact List.mem_cons_of_mem _ (hpassed m hin)
                  | inr hin => exact List.mem_singleton.mp hin ▸ List.mem_cons_self
                have hrun := ih hdone hleft hshort
                rw [head?_filter_seen hnext, if_neg Bool.false_ne_true, Option.map_map]
                have hkept : (fun kept => passed.map Node.val ++ kept) ∘ (n.val :: ·) =
                    ((passed ++ [n]).map Node.val ++ ·) := by
                  funext kept
                  simp
                rw [hkept]
                exact hrun

/-- The loops over the entries delete those that `mccSrcListUnique` leaves out of their values. -/
theorem ends_forEachSafe :
    Ends (NodeList.forEachSafe (fun ref list => NodeList.forEachSafe (duplicateBody ref) list) list)
      (mccSrcListUnique [] list.vals) := by
  have hall : list.nodes.filter (fun n => n.val.sa ∉ ([] : List MccIpAddr)) = list.nodes :=
    List.filter_eq_self.mpr fun n _ => decide_eq_true List.not_mem_nil
  have hrun := @ends_walk list [] [] list.nodes list.nodes.length (by simp) (by rw [hall]; rfl)
    (by rw [hall])
  rw [hall] at hrun
  simpa [NodeList.forEachSafe, NodeList.first, NodeList.vals] using hrun

/-- `mcc_src_list_clean` deletes what the model of it on values leaves out, and reads a freed entry
where that is `none`. -/
theorem ends_mccSrcListClean :
    Ends (mccSrcListClean list) (mccSrcListUnique [] (mccSrcListCollapse list.vals)) := by
  unfold mccSrcListClean
  by_cases hempty : list.nodes.length = 0
  · have hnil : list.vals = [] := by
      rw [NodeList.vals, List.length_eq_zero_iff.mp hempty, List.map_nil]
    rw [if_pos hempty, hnil]
    exact ⟨list, rfl, hnil⟩
  · rw [if_neg hempty, mccSrcListCollapse]
    split
    · have hcollapse : NodeList.forEachSafe collapseBody list =
          .ok (list.filter (·.val.sa = mccIpAny)) :=
        NodeList.forEachSafe_eq fun _ _ _ _ hn => collapseBody_eq hn
      have hvals : (list.filter (·.val.sa = mccIpAny)).vals =
          list.vals.filter (·.sa = mccIpAny) := by
        rw [NodeList.vals, NodeList.vals, List.filter_map]
        rfl
      rw [hcollapse, ← hvals]
      exact ends_forEachSafe
    · exact ends_forEachSafe

/-- What `mccSrcListUnique` leaves are entries of the list. -/
theorem sublist_mccSrcListUnique {kept : List MccSrcEntry}
    (hkept : mccSrcListUnique seen entries = some kept) : kept.Sublist entries := by
  induction entries generalizing seen kept with
  | nil =>
      obtain rfl : [] = kept := Option.some.inj hkept
      exact List.Sublist.refl _
  | cons e rest ih =>
      rw [mccSrcListUnique] at hkept
      split at hkept
      · exact (ih hkept).cons e
      · split at hkept
        · cases hkept
        · obtain ⟨more, hmore, hcons⟩ := Option.map_eq_some_iff.mp hkept
          exact hcons ▸ (ih hmore).cons_cons e

theorem count_mccSrcListUnique {kept : List MccSrcEntry}
    (hkept : mccSrcListUnique [] entries = some kept) (sa : MccIpAddr) :
    (addrs kept).count sa = if sa ∈ addrs entries then 1 else 0 := by
  have ⟨hnodup, hmem⟩ := nodup_mccSrcListUnique hkept
  rw [hnodup.count]
  simp only [hmem, List.not_mem_nil, not_false_eq_true, and_true]

theorem mccSrcListUnique_same {sa : MccIpAddr} (hsame : ∀ e ∈ entries, e.sa = sa) :
    mccSrcListUnique [] entries = none ↔ 1 < entries.length := by
  cases entries with
  | nil => simp [mccSrcListUnique]
  | cons e rest =>
      cases rest with
      | nil => simp [mccSrcListUnique]
      | cons other rest =>
          have hother : other.sa = e.sa :=
            (hsame other (by simp)).trans (hsame e (by simp)).symm
          simp [mccSrcListUnique, hother]

/-- The values are cleaned exactly under the guard. -/
theorem cleanGuard_iff :
    CleanGuard entries ↔ mccSrcListUnique [] (mccSrcListCollapse entries) ≠ none := by
  unfold CleanGuard mccSrcListCollapse
  by_cases hany : mccIpAny ∈ addrs entries
  · have hfound : (mccSrcFind entries mccIpAny).isSome = true := by
      have ⟨e, he, hsa⟩ := List.mem_map.mp hany
      exact List.find?_isSome.mpr ⟨e, he, decide_eq_true hsa⟩
    have hall : ∀ e ∈ entries.filter (·.sa = mccIpAny), e.sa = mccIpAny :=
      fun e he => of_decide_eq_true (List.mem_filter.mp he).2
    have hcount : (addrs entries).count mccIpAny = (entries.filter (·.sa = mccIpAny)).length := by
      rw [List.count_eq_countP, List.countP_map, List.countP_eq_length_filter]
      congr 1
    have hpos : 0 < (addrs entries).count mccIpAny := List.count_pos_iff.mpr hany
    rw [if_pos hany, if_pos hfound, ne_eq, mccSrcListUnique_same hall]
    omega
  · have hfound : ¬ (mccSrcFind entries mccIpAny).isSome = true := by
      intro hsome
      have ⟨e, he, hsa⟩ := List.find?_isSome.mp hsome
      exact hany (List.mem_map.mpr ⟨e, he, of_decide_eq_true hsa⟩)
    rw [if_neg hany, if_neg hfound, ne_eq, mccSrcListUnique_eq_none_iff]

/-- What is left of the values is as it should be. -/
theorem cleaned_of_unique {kept : List MccSrcEntry}
    (hkept : mccSrcListUnique [] (mccSrcListCollapse entries) = some kept) :
    Cleaned entries kept := by
  have hsub := sublist_mccSrcListUnique hkept
  have hcount := count_mccSrcListUnique hkept
  unfold mccSrcListCollapse at hsub hcount
  split at hsub
  · rename_i hfound
    have ⟨e, he, hsa⟩ := List.find?_isSome.mp hfound
    have hany : mccIpAny ∈ addrs entries :=
      List.mem_map.mpr ⟨e, he, of_decide_eq_true hsa⟩
    rw [if_pos hfound] at hcount
    have hall : ∀ sa ∈ addrs kept, sa = mccIpAny := by
      intro sa hin
      have ⟨entry, hentry, hentrySa⟩ := List.mem_map.mp hin
      have hpass := (List.mem_filter.mp (hsub.subset hentry)).2
      exact hentrySa ▸ of_decide_eq_true hpass
    have hin : mccIpAny ∈ addrs (entries.filter (·.sa = mccIpAny)) :=
      List.mem_map.mpr ⟨e, List.mem_filter.mpr ⟨he, hsa⟩, of_decide_eq_true hsa⟩
    have hone : (addrs kept).count mccIpAny = 1 := (hcount mccIpAny).trans (if_pos hin)
    have hrep := List.eq_replicate_of_mem hall
    have hlength : (addrs kept).length = 1 := by
      rw [hrep, List.count_replicate_self] at hone
      exact hone
    rw [hlength] at hrep
    exact ⟨hsub.trans List.filter_sublist, fun _ => hrep, fun hnot => absurd hany hnot⟩
  · rename_i hfound
    rw [if_neg hfound] at hcount
    have hnot : mccIpAny ∉ addrs entries := by
      intro hany
      have ⟨e, he, hsa⟩ := List.mem_map.mp hany
      exact hfound (List.find?_isSome.mpr ⟨e, he, decide_eq_true hsa⟩)
    exact ⟨hsub, fun hany => absurd hany hnot, fun _ => hcount⟩

theorem cleanRight_iff : CleanRight list ↔ CleanGuard list.vals := by
  have hends := @ends_mccSrcListClean list
  rw [cleanGuard_iff]
  cases hkept : mccSrcListUnique [] (mccSrcListCollapse list.vals) with
  | none =>
      rw [hkept] at hends
      have ⟨p, hfault⟩ := hends
      constructor
      · rintro ⟨kept, hok, _⟩
        rw [hfault] at hok
        cases hok
      · intro hne
        exact absurd rfl hne
  | some kept =>
      rw [hkept] at hends
      have ⟨l, hok, hvals⟩ := hends
      have hcleaned : Cleaned list.vals l.vals := hvals ▸ cleaned_of_unique hkept
      exact iff_of_true ⟨l, hok, hcleaned⟩ (Option.some_ne_none _)

end Clean

/-! ## Subtracting -/

section Subtract

variable {list1 : SrcNodes} {list2 : List MccSrcEntry}

theorem subtractBody_of_guard {n : Node MccSrcEntry} {l : SrcNodes} (hn : n ∈ l.nodes)
    (hguard : SubtractGuard [n.val] list2) :
    subtractBody list2 n.addr l =
      .ok (if decide (n.val.sa ∉ addrs list2) then l else l.delete n.addr) := by
  by_cases hout : n.val.sa ∈ addrs list2
  · have ⟨init, last, hlist, hsame, hinit⟩ := hguard n.val List.mem_cons_self hout
    rw [if_neg (by simpa using hout), hlist, subtractBody_append hn hinit hsame.symm]
    rfl
  · rw [subtractBody_of_not_mem hn hout, if_pos (decide_eq_true hout)]

/-- Otherwise it reads the entry that it has freed. -/
theorem subtractBody_of_not_guard {n : Node MccSrcEntry} {l : SrcNodes} (hn : n ∈ l.nodes)
    (hguard : ¬ SubtractGuard [n.val] list2) :
    subtractBody list2 n.addr l = .error (.freed n.addr) := by
  have hin : n.val.sa ∈ addrs list2 := by
    by_contra hout
    exact hguard fun e he hmem => absurd (List.mem_singleton.mp he ▸ hmem) hout
  have ⟨e, he, hsa⟩ := List.mem_map.mp hin
  have ⟨found, hfound⟩ : ∃ found, list2.find? (·.sa = n.val.sa) = some found :=
    Option.isSome_iff_exists.mp (List.find?_isSome.mpr ⟨e, he, decide_eq_true hsa⟩)
  have ⟨hsame, init, rest, hlist, hinit⟩ := List.find?_eq_some_iff_append.mp hfound
  have hbefore : n.val.sa ∉ addrs init := by
    intro hmem
    have ⟨entry, hentry, hentrySa⟩ := List.mem_map.mp hmem
    simpa [hentrySa] using hinit entry hentry
  rw [hlist, subtractBody_append hn hbefore (of_decide_eq_true hsame).symm]
  cases rest with
  | nil =>
      refine absurd (fun e he _ => ?_) hguard
      rw [List.mem_singleton.mp he]
      exact ⟨init, found, hlist, of_decide_eq_true hsame, hbefore⟩
  | cons e2 rest =>
      rw [subtractBody, NodeList.read_freed (NodeList.delete_freed l n.addr)]
      rfl

theorem subtractRight_iff : SubtractRight list1 list2 ↔ SubtractGuard list1.vals list2 := by
  have hsplit : SubtractGuard list1.vals list2 ↔
      ∀ n ∈ list1.nodes, SubtractGuard [n.val] list2 := by
    simp [SubtractGuard, NodeList.vals]
  unfold SubtractRight mccSrcListSubtract
  by_cases hempty : list1.nodes.length = 0 ∨ list2.length = 0
  · rw [if_pos hempty]
    cases hempty with
    | inl hnone =>
        have hnil : list1.vals = [] := by
          rw [NodeList.vals, List.length_eq_zero_iff.mp hnone, List.map_nil]
        refine iff_of_true ⟨list1, rfl, ?_⟩ ?_
        · rw [hnil, List.filter_nil]
        · intro e he
          rw [hnil] at he
          cases he
    | inr hnone =>
        have hnil : list2 = [] := List.length_eq_zero_iff.mp hnone
        subst hnil
        refine iff_of_true ⟨list1, rfl, ?_⟩ ?_
        · exact (List.filter_eq_self.mpr fun e _ => by simp).symm
        · intro e _ hin
          cases hin
  · rw [if_neg hempty, hsplit]
    by_cases hgood : ∀ n ∈ list1.nodes, SubtractGuard [n.val] list2
    · refine iff_of_true ?_ hgood
      have hrun : NodeList.forEachSafe (subtractBody list2) list1 =
          .ok (list1.filter (·.val.sa ∉ addrs list2)) := by
        apply NodeList.forEachSafe_eq
        intro l hsub _ n hn
        exact subtractBody_of_guard hn (hgood n (hsub hn))
      refine ⟨_, hrun, ?_⟩
      rw [NodeList.vals, NodeList.vals, List.filter_map]
      rfl
    · refine iff_of_false ?_ hgood
      have hsome : ∃ n ∈ list1.nodes, ¬ SubtractGuard [n.val] list2 := by
        push Not at hgood
        exact hgood
      have ⟨p, hfault⟩ := @NodeList.forEachSafe_error _ list1 (subtractBody list2)
        (fun n => SubtractGuard [n.val] list2)
        (fun l n hn hguard => by
          rw [subtractBody_of_guard hn hguard]
          split
          · exact .inl rfl
          · exact .inr rfl)
        (fun l n hn => subtractBody_of_not_guard hn) hsome
      rintro ⟨kept, hok, _⟩
      rw [hfault] at hok
      cases hok

end Subtract

/-- Both calls do what they are for exactly under their guards. -/
theorem srcListsRight_iff (list list1 : SrcNodes) (list2 : List MccSrcEntry) :
    (CleanRight list ↔ CleanGuard list.vals) ∧
      (SubtractRight list1 list2 ↔ SubtractGuard list1.vals list2) :=
  ⟨cleanRight_iff, subtractRight_iff⟩

/-- Two entries of one source at the addresses 0 and 1. -/
def twice : SrcNodes := ⟨[⟨0, 1, 0, false, false⟩, ⟨1, 1, 0, false, false⟩], by decide⟩

/-- Cleaning goes on from the second of two equal entries after it is freed, and subtracting
compares an entry that it has freed with the rest of the second list. -/
theorem srcListsRight_not :
    mccSrcListClean twice = .error (.freed 1) ∧ ¬ CleanRight twice ∧
      mccSrcListSubtract twice [⟨1, 0, false, false⟩, ⟨2, 0, false, false⟩] =
        .error (.freed 0) ∧
      ¬ SubtractRight twice [⟨1, 0, false, false⟩, ⟨2, 0, false, false⟩] := by
  have hclean : mccSrcListClean twice = .error (.freed 1) := rfl
  have hsubtract : mccSrcListSubtract twice [⟨1, 0, false, false⟩, ⟨2, 0, false, false⟩] =
      .error (.freed 0) := rfl
  refine ⟨hclean, ?_, hsubtract, ?_⟩
  · rintro ⟨kept, hok, _⟩
    rw [hclean] at hok
    cases hok
  · rintro ⟨kept, hok, _⟩
    rw [hsubtract] at hok
    cases hok

end SrcNodes

end FalconGpon.Mcc
