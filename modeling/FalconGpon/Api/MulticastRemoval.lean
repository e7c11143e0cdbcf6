/-
# The removal of sources from a group

`mcc_subscr_group_entry_src_rem` closes the gap that a source leaves in the array. Each round of
its inner loop that does so at the right place removes that source; a source whose place is not
its number among the sources to be removed has to be the last one.
-/

import FalconGpon.Api.MulticastSources

namespace FalconGpon.Api

open FalconGpon.Lib

namespace McEngine

/-- The positions of the array that a round of the inner loop touches: it compares, and closes the
gap. -/
def srcListRemOneTouched (i : Nat) (addr : BitVec 32) (old : SrcAddrList) (j : Nat) : List Nat :=
  if j < old.sAddrNum then
    j :: if old.sAddr[j]? = some addr then
        if i + 1 = old.sAddrNum then [i]
        else List.range' j (old.sAddrNum - j - 1) ++ List.range' (i + 1) (old.sAddrNum - j - 1)
      else []
  else []

/-- The positions of the array that the loop over the new addresses touches. -/
def srcListRemTouched (env : McEnv) (i : Nat) : List (BitVec 32) → SrcAddrList → List Nat
  | [], _ => []
  | addr :: rest, old =>
      let before := fun j => (List.range j).foldl (srcListRemOne env i addr) old
      (List.range old.sAddrNum).flatMap (fun j => srcListRemOneTouched i addr (before j) j) ++
        if (before old.sAddrNum).sAddrNum = 0 then []
        else srcListRemTouched env (i + 1) rest (before old.sAddrNum)

def remaining (group old : McGroup) : List (BitVec 32) :=
  old.sAddrList.used.filter (· ∉ group.sAddrList.used)

def Emptied (group : McGroup) (old : AddedGroup) : Prop :=
  old.group.Matches group ∧ remaining group old.group = []
deriving Decidable

/-- An entry of the group has what is left of its sources. -/
def SrcRemoved (group : McGroup) (old new : AddedGroup) : Prop :=
  if old.group.Matches group then
    new = withSources group old new.group.sAddrList ∧
      new.group.sAddrList.used = remaining group old.group
  else new = old

/-- What `mcc_subscr_group_entry_src_rem` should do to a list: each entry of the group loses the
sources and goes if none is left, and nothing else changes. -/
structure SrcRemOutcome (env : McEnv) (engine : McEngine) (s : Option SubscrIdx) (group : McGroup)
    (after : McEngine) : Prop where
  entries : List.Forall₂ (SrcRemoved group)
    ((engine.groupsList s).entries.filter fun old => ¬Emptied group old)
    (after.groupsList s).entries
  others : ∀ other ≠ s, after.groupsList other = engine.groupsList other
  within : ∀ old ∈ (engine.groupsList s).entries, old.group.Matches group →
    ∀ pos ∈ srcListRemTouched env 0 group.sAddrList.used old.group.sAddrList,
      pos < mccIgmpSourceAddrListCountMax

/-- `mcc_subscr_group_entry_src_rem` returns without touching a freed entry, and does what it
should. -/
def SrcRemRight (env : McEnv) (engine : McEngine) (s : Option SubscrIdx) (group : McGroup) : Prop :=
  ∃ ret after, engine.groupEntrySrcRem env s group = some (ret, after) ∧
    engine.SrcRemOutcome env s group after

/-- Where an address stands, it is the last one, or stands at place `i` and not before itself. -/
def Removable (i : Nat) (addr : BitVec 32) (sources : List (BitVec 32)) : Prop :=
  ∀ before after, sources = before ++ addr :: after →
    after = [] ∨ before.length = i ∧ after.head? ≠ some addr

/-- Each address of `news`, of which the first has number `i`, can be removed from the sources when
its turn comes, and none is to be removed behind the one that takes the last source. -/
structure SourcesRemovable (i : Nat) (news sources : List (BitVec 32)) : Prop where
  removable : ∀ front addr rest, news = front ++ addr :: rest →
    Removable (i + front.length) addr (sources.filter (· ∉ front))
  last : ∀ front addr rest, news = front ++ addr :: rest →
    sources.filter (· ∉ front ++ [addr]) = [] → rest = []
  nonempty : news = [] → sources ≠ []

/-- The sources of an entry can be removed, and the device lets an empty entry go. -/
structure SrcRemSafeEntry (env : McEnv) (group : McGroup) (old : AddedGroup) : Prop where
  sources : SourcesRemovable 0 group.sAddrList.used old.group.sAddrList.used
  port : remaining group old.group = [] → env.port old.port ≠ .error

def SrcRemSafe (env : McEnv) (engine : McEngine) (s : Option SubscrIdx) (group : McGroup) : Prop :=
  engine.locked = false ∧
    ∀ old ∈ (engine.groupsList s).entries, old.group.Matches group → SrcRemSafeEntry env group old

section Round

variable {env : McEnv} {i j : Nat} {addr : BitVec 32} {old : SrcAddrList}

theorem srcListRemOne_of_ne (h : ¬(j < old.sAddrNum ∧ old.sAddr[j]? = some addr)) :
    srcListRemOne env i addr old j = old :=
  if_neg h

theorem map_range_getD {α : Type} (l : List α) (behind : Nat → α) {start len : Nat}
    (hlen : start + len ≤ l.length) :
    (List.range len).map (fun k => l.getD (start + k) (behind (start + k))) =
      (l.drop start).take len := by
  apply List.ext_getElem
  · rw [List.length_map, List.length_range, List.length_take, List.length_drop]
    omega
  · intro k hk _
    rw [List.length_map, List.length_range] at hk
    rw [List.getElem_map, List.getElem_range, List.getElem_take, List.getElem_drop]
    exact (List.getElem_eq_getD _).symm

/-- A round that closes the gap at the right place. -/
theorem srcListRemOne_erase (h : old.Valid) (hj : j < old.sAddrNum)
    (haddr : old.sAddr[j]? = some addr) (hplace : j = i ∨ j + 1 = old.sAddrNum) :
    (srcListRemOne env i addr old j).Valid ∧
      (srcListRemOne env i addr old j).used = old.used.eraseIdx j := by
  have hnum := h.sAddrNum_le
  have hlength := h.length_sAddr
  have herased : old.used.eraseIdx j =
      old.sAddr.take j ++ (old.sAddr.drop (j + 1)).take (old.sAddrNum - j - 1) := by
    rw [List.eraseIdx_eq_take_drop_succ, SrcAddrList.used, List.take_take, List.drop_take,
      Nat.min_eq_left hj.le, Nat.sub_sub]
  rw [srcListRemOne, if_pos ⟨hj, haddr⟩, herased]
  by_cases hend : i + 1 = old.sAddrNum
  · have hsame : j + 1 = old.sAddrNum := by omega
    have hnone : old.sAddrNum - j - 1 = 0 := by omega
    have hcount : old.sAddrNum - 1 = i := by omega
    rw [if_pos hend, hnone, List.take_zero, List.append_nil]
    constructor
    · exact
        { length_sAddr := List.length_set.trans hlength
          sAddrNum_le := (Nat.sub_le _ _).trans hnum }
    · rw [SrcAddrList.used, hcount, List.take_set_of_le (Nat.le_refl i)]
      congr 1
      omega
  · have hmoved : (List.range (old.sAddrNum - j - 1)).map (fun k =>
          old.sAddr.getD (i + 1 + k) (env.behind (i + 1 + k))) =
        (old.sAddr.drop (j + 1)).take (old.sAddrNum - j - 1) := by
      rcases hplace with hi | hlast
      · rw [← hi, map_range_getD]
        omega
      · have hnone : old.sAddrNum - j - 1 = 0 := by omega
        rw [hnone, List.range_zero, List.take_zero]
        rfl
    have hlen : ((old.sAddr.drop (j + 1)).take (old.sAddrNum - j - 1)).length =
        old.sAddrNum - j - 1 := by
      rw [List.length_take, List.length_drop]
      omega
    have hfront : (old.sAddr.take j ++
        (old.sAddr.drop (j + 1)).take (old.sAddrNum - j - 1)).length = old.sAddrNum - 1 := by
      rw [List.length_append, List.length_take, hlen]
      omega
    rw [if_neg hend]
    dsimp only
    rw [hmoved, hlen]
    constructor
    · exact
        { length_sAddr := by
            rw [List.length_append, hfront, List.length_drop]
            omega
          sAddrNum_le := (Nat.sub_le _ _).trans hnum }
    · rw [SrcAddrList.used, List.take_append_of_le_length hfront.ge,
        List.take_of_length_le hfront.le]

theorem srcListRemOneTouched_lt (h : old.Valid)
    (hplace : j < old.sAddrNum → old.sAddr[j]? = some addr → j = i ∨ j + 1 = old.sAddrNum) :
    ∀ pos ∈ srcListRemOneTouched i addr old j, pos < mccIgmpSourceAddrListCountMax := by
  intro pos hpos
  have hnum := h.sAddrNum_le
  rw [srcListRemOneTouched] at hpos
  split_ifs at hpos with hj haddr hend
  · rcases List.mem_cons.mp hpos with hfirst | hrest
    · omega
    · rw [List.mem_singleton] at hrest
      omega
  · have hright := hplace hj haddr
    rcases List.mem_cons.mp hpos with hfirst | hrest
    · omega
    · rcases List.mem_append.mp hrest with htarget | hsource
      · have hrange := List.mem_range'_1.mp htarget
        omega
      · have hrange := List.mem_range'_1.mp hsource
        omega
  · rw [List.mem_singleton] at hpos
    omega
  · exact absurd hpos List.not_mem_nil

/-- The inner loop from round `j` on leaves these sources and stays inside the array. -/
structure InnerRight (env : McEnv) (i : Nat) (addr : BitVec 32) (j len : Nat) (old : SrcAddrList)
    (expected : List (BitVec 32)) : Prop where
  valid : ((List.range' j len).foldl (srcListRemOne env i addr) old).Valid
  used : ((List.range' j len).foldl (srcListRemOne env i addr) old).used = expected
  within : ∀ k < len, ∀ pos ∈ srcListRemOneTouched i addr
      ((List.range' j k).foldl (srcListRemOne env i addr) old) (j + k),
    pos < mccIgmpSourceAddrListCountMax

theorem InnerRight.cons {len : Nat} {expected : List (BitVec 32)} {next : SrcAddrList}
    (hstep : srcListRemOne env i addr old j = next)
    (htouched : ∀ pos ∈ srcListRemOneTouched i addr old j, pos < mccIgmpSourceAddrListCountMax)
    (h : InnerRight env i addr (j + 1) len next expected) :
    InnerRight env i addr j (len + 1) old expected := by
  subst hstep
  exact
    { valid := h.valid
      used := h.used
      within := fun k hk => by
        cases k with
        | zero => exact htouched
        | succ k =>
            rw [← Nat.add_assoc, Nat.add_right_comm]
            exact h.within k (Nat.lt_of_succ_lt_succ hk) }

theorem InnerRight.idle (h : old.Valid) (hj : old.sAddrNum ≤ j) (len : Nat) :
    InnerRight env i addr j len old old.used := by
  induction len generalizing j with
  | zero => exact { valid := h, used := rfl, within := nofun }
  | succ len ih =>
      have hstep : srcListRemOne env i addr old j = old :=
        srcListRemOne_of_ne fun hin => Nat.not_lt.mpr hj hin.1
      have htouched : ∀ pos ∈ srcListRemOneTouched i addr old j,
          pos < mccIgmpSourceAddrListCountMax :=
        srcListRemOneTouched_lt h fun hin => absurd hin (Nat.not_lt.mpr hj)
      exact InnerRight.cons hstep htouched (ih (Nat.le_succ_of_le hj))

/-- From round `j` on, the rest of the sources may lose an address. -/
def RemovableFrom (i j : Nat) (addr : BitVec 32) (todo : List (BitVec 32)) : Prop :=
  ∀ before after, todo = before ++ addr :: after →
    after = [] ∨ j + before.length = i ∧ after.head? ≠ some addr

theorem RemovableFrom.tail {source : BitVec 32} {rest : List (BitVec 32)}
    (h : RemovableFrom i j addr (source :: rest)) : RemovableFrom i (j + 1) addr rest := by
  intro before after hrest
  have hfull := h (source :: before) after (by rw [hrest]; rfl)
  rwa [List.length_cons, ← Nat.add_assoc, Nat.add_right_comm] at hfull

theorem getElem?_of_used {done rest : List (BitVec 32)} {source : BitVec 32}
    (hused : old.used = done ++ source :: rest) (hlength : old.Valid) :
    done.length < old.sAddrNum ∧ old.sAddr[done.length]? = some source ∧
      (done.length + 1 = old.sAddrNum ↔ rest = []) := by
  have hnum := hlength.length_used
  rw [hused, List.length_append, List.length_cons] at hnum
  have hsource : old.used[done.length]? = some source := by
    rw [hused, List.getElem?_append_right (Nat.le_refl _), Nat.sub_self]
    rfl
  have hj : done.length < old.sAddrNum := by omega
  rw [SrcAddrList.used, List.getElem?_take_of_lt hj] at hsource
  refine ⟨hj, hsource, ?_⟩
  rw [← List.length_eq_zero_iff]
  omega

/-- The inner loop removes the address from the rest of the sources. -/
theorem innerRight_of_removableFrom (len : Nat) {done todo : List (BitVec 32)} (h : old.Valid)
    (hused : old.used = done ++ todo) (hlen : todo.length ≤ len)
    (hclean : RemovableFrom i done.length addr todo) :
    InnerRight env i addr done.length len old (done ++ todo.filter (· ≠ addr)) := by
  induction len generalizing done todo old with
  | zero =>
      rw [List.length_eq_zero_iff.mp (Nat.le_zero.mp hlen)] at hused ⊢
      exact { valid := h, used := hused, within := nofun }
  | succ len ih =>
      cases todo with
      | nil =>
          rw [List.filter_nil, ← hused]
          have hend : old.sAddrNum ≤ done.length := by
            rw [← h.length_used, hused, List.append_nil]
          exact InnerRight.idle h hend (len + 1)
      | cons source rest =>
          have ⟨hj, hsource, hlast⟩ := getElem?_of_used hused h
          rw [List.length_cons] at hlen
          by_cases haddr : source = addr
          · subst haddr
            have hplace : done.length = i ∨ done.length + 1 = old.sAddrNum := by
              rcases hclean [] rest rfl with hnil | hcons
              · exact .inr (hlast.mpr hnil)
              · exact .inl hcons.1
            have ⟨hvalid, herased⟩ := @srcListRemOne_erase env _ _ _ _ h hj hsource hplace
            rw [hused, List.eraseIdx_append_of_length_le (Nat.le_refl _), Nat.sub_self,
              List.eraseIdx_cons_zero] at herased
            apply InnerRight.cons rfl (srcListRemOneTouched_lt h fun _ _ => hplace)
            cases rest with
            | nil =>
                have hnum := hvalid.length_used
                rw [herased, List.append_nil] at hnum
                rw [List.filter_cons_of_neg (by simp), List.filter_nil, ← herased]
                exact InnerRight.idle hvalid (hnum.symm.trans_le (Nat.le_succ _)) len
            | cons next rest =>
                -- the source behind the gap takes its place and is not looked at
                have ⟨hi, hnext⟩ := (hclean [] (next :: rest) rfl).resolve_left nofun
                have hnext' : next ≠ source := fun hsame => hnext (congrArg some hsame)
                have hrest : RemovableFrom i (done ++ [next]).length source rest := by
                  intro before after hsplit
                  have hfull := hclean (source :: next :: before) after (by rw [hsplit]; rfl)
                  rcases hfull with hnil | hcons
                  · exact .inl hnil
                  · have hlength := hcons.1
                    simp only [List.length_cons, List.length_nil] at hi hlength
                    omega
                rw [List.append_cons] at herased
                have hlater := ih hvalid herased (Nat.le_of_succ_le (Nat.le_of_succ_le_succ hlen))
                  hrest
                rw [List.length_append] at hlater
                have hfilter : done ++ (source :: next :: rest).filter (· ≠ source) =
                    done ++ [next] ++ rest.filter (· ≠ source) := by
                  rw [List.filter_cons_of_neg (by simp), List.filter_cons_of_pos (by simpa),
                    List.append_cons]
                rw [hfilter]
                exact hlater
          · have hstep : srcListRemOne env i addr old done.length = old :=
              srcListRemOne_of_ne fun hin =>
                haddr (Option.some.inj (hsource.symm.trans hin.2))
            have htouched : ∀ pos ∈ srcListRemOneTouched i addr old done.length,
                pos < mccIgmpSourceAddrListCountMax :=
              srcListRemOneTouched_lt h
                fun _ hin => absurd (Option.some.inj (hsource.symm.trans hin)) haddr
            rw [List.append_cons] at hused
            have hclean' : RemovableFrom i (done ++ [source]).length addr rest := by
              rw [List.length_append]
              exact hclean.tail
            have hlater := ih h hused (Nat.le_of_succ_le_succ hlen) hclean'
            rw [List.length_append] at hlater
            rw [List.filter_cons_of_pos (by simpa), List.append_cons]
            exact InnerRight.cons hstep htouched hlater

end Round

section Sources

variable {env : McEnv} {i : Nat} {old : SrcAddrList}

theorem filter_filter_notMem (sources front : List (BitVec 32)) (addr : BitVec 32) :
    (sources.filter (· ≠ addr)).filter (· ∉ front) = sources.filter (· ∉ addr :: front) := by
  rw [List.filter_filter]
  apply List.filter_congr
  intro source _
  rw [← Bool.decide_and]
  apply decide_eq_decide.mpr
  rw [List.mem_cons, not_or, and_comm]

theorem SourcesRemovable.tail {addr : BitVec 32} {rest sources : List (BitVec 32)}
    (h : SourcesRemovable i (addr :: rest) sources) (hleft : sources.filter (· ≠ addr) ≠ []) :
    SourcesRemovable (i + 1) rest (sources.filter (· ≠ addr)) where
  removable front next after hsplit := by
    have hfull := h.removable (addr :: front) next after (by rw [hsplit]; rfl)
    rw [filter_filter_notMem]
    rwa [List.length_cons, ← Nat.add_assoc, Nat.add_right_comm] at hfull
  last front next after hsplit hnone := by
    rw [filter_filter_notMem] at hnone
    exact h.last (addr :: front) next after (by rw [hsplit]; rfl) hnone
  nonempty _ := hleft

def SrcRem.Leaves (expected : List (BitVec 32)) (len : Nat) : SrcRem → Prop
  | .kept sources => sources.used = expected ∧ expected ≠ []
  | .empty i _ => expected = [] ∧ i + 1 = len

theorem SourcesRemovable.head {addr : BitVec 32} {rest : List (BitVec 32)} (hvalid : old.Valid)
    (h : SourcesRemovable i (addr :: rest) old.used) :
    InnerRight env i addr 0 old.sAddrNum old (old.used.filter (· ≠ addr)) := by
  have hhead := h.removable [] addr rest rfl
  have hall : old.used.filter (· ∉ ([] : List (BitVec 32))) = old.used :=
    List.filter_eq_self.mpr fun source _ => decide_eq_true List.not_mem_nil
  rw [hall] at hhead
  have hclean : RemovableFrom i ([] : List (BitVec 32)).length addr old.used := by
    intro before after hsplit
    rcases hhead before after hsplit with hnil | hcons
    · exact .inl hnil
    · exact .inr ⟨(Nat.zero_add _).trans hcons.1, hcons.2⟩
  exact innerRight_of_removableFrom old.sAddrNum hvalid rfl hvalid.length_used.le hclean

section Cons

variable {addr : BitVec 32} {rest : List (BitVec 32)} {left : SrcAddrList}
  (hleft : (List.range old.sAddrNum).foldl (srcListRemOne env i addr) old = left)
include hleft

theorem srcListRem_cons :
    srcListRem env i (addr :: rest) old =
      if left.sAddrNum = 0 then .empty i left else srcListRem env (i + 1) rest left := by
  subst hleft
  rfl

theorem srcListRemTouched_cons :
    srcListRemTouched env i (addr :: rest) old =
      (List.range old.sAddrNum).flatMap (fun j => srcListRemOneTouched i addr
          ((List.range j).foldl (srcListRemOne env i addr) old) j) ++
        if left.sAddrNum = 0 then [] else srcListRemTouched env (i + 1) rest left := by
  subst hleft
  rfl

end Cons

/-- The loop over the new addresses leaves the other sources, and stays inside the array. -/
theorem srcListRem_leaves {news : List (BitVec 32)} (hvalid : old.Valid)
    (h : SourcesRemovable i news old.used) :
    (srcListRem env i news old).Leaves (old.used.filter (· ∉ news)) (i + news.length) ∧
      ∀ pos ∈ srcListRemTouched env i news old, pos < mccIgmpSourceAddrListCountMax := by
  induction news generalizing i old with
  | nil =>
      have hall : old.used.filter (· ∉ ([] : List (BitVec 32))) = old.used :=
        List.filter_eq_self.mpr fun source _ => decide_eq_true List.not_mem_nil
      rw [hall]
      exact ⟨⟨rfl, h.nonempty rfl⟩, nofun⟩
  | cons addr rest ih =>
      have hinner := @SourcesRemovable.head env _ _ _ _ hvalid h
      have hleftValid := hinner.valid
      have hleftUsed := hinner.used
      have hwithin := hinner.within
      rw [← List.range_eq_range'] at hleftValid hleftUsed
      simp only [← List.range_eq_range', Nat.zero_add] at hwithin
      have ⟨left, hleft⟩ :
          ∃ left, (List.range old.sAddrNum).foldl (srcListRemOne env i addr) old = left := ⟨_, rfl⟩
      rw [hleft] at hleftValid hleftUsed
      have htouched : ∀ pos ∈ (List.range old.sAddrNum).flatMap fun j => srcListRemOneTouched i addr
          ((List.range j).foldl (srcListRemOne env i addr) old) j,
          pos < mccIgmpSourceAddrListCountMax := by
        intro pos hpos
        have ⟨j, hj, hpos⟩ := List.mem_flatMap.mp hpos
        exact hwithin j (List.mem_range.mp hj) pos hpos
      rw [← filter_filter_notMem, ← hleftUsed, srcListRem_cons hleft, srcListRemTouched_cons hleft]
      by_cases hempty : left.sAddrNum = 0
      · have hnone : left.used = [] := by
          rw [← List.length_eq_zero_iff, hleftValid.length_used, hempty]
        have hlast : rest = [] := by
          apply h.last [] addr rest rfl
          have hsingle : old.used.filter (· ∉ [] ++ [addr]) = old.used.filter (· ≠ addr) := by
            apply List.filter_congr
            intro source _
            apply decide_eq_decide.mpr
            rw [List.nil_append, List.mem_singleton]
          rw [hsingle, ← hleftUsed, hnone]
        rw [if_pos hempty, if_pos hempty, hnone, hlast, List.append_nil]
        exact ⟨⟨rfl, rfl⟩, htouched⟩
      · have hsome : old.used.filter (· ≠ addr) ≠ [] := by
          rw [← hleftUsed, ← List.length_pos_iff, hleftValid.length_used]
          exact Nat.pos_of_ne_zero hempty
        have htail := h.tail hsome
        rw [← hleftUsed] at htail
        have ⟨hleaves, hlater⟩ := ih hleftValid htail
        rw [if_neg hempty, if_neg hempty, List.length_cons, Nat.add_comm rest.length 1,
          ← Nat.add_assoc]
        constructor
        · exact hleaves
        · intro pos hpos
          rcases List.mem_append.mp hpos with hfirst | hrest
          · exact htouched pos hfirst
          · exact hlater pos hrest

/-- A source removed in the place of another may be removed as well later on: the condition is not
necessary where an address comes twice. -/
example : ¬Removable 1 1 [1, 2] ∧
    ∃ left, srcListRem env 0 [3, 1, 2, 1] ⟨[1, 2, 0, 0, 0, 0, 0, 0, 0, 0], 2⟩ = .empty 3 left :=
  ⟨fun h => absurd (h [] [2] rfl) (by decide), _, rfl⟩

end Sources

/-! ## The entries of a list -/

section Entries

variable {env : McEnv} {engine : McEngine} {s : Option SubscrIdx} {group : McGroup}
  {done rest : List AddedGroup} {old : AddedGroup} {ret : McReturn} {sources : SrcAddrList}

theorem groupEntrySrcRemLoop_of_not_matches (hmatch : ¬old.group.Matches group) :
    groupEntrySrcRemLoop env s group done (old :: rest) ret engine =
      groupEntrySrcRemLoop env s group (done ++ [old]) rest ret engine := by
  rw [groupEntrySrcRemLoop]
  exact if_neg hmatch

theorem groupEntrySrcRemLoop_of_kept (hmatch : old.group.Matches group)
    (hkept : srcListRem env 0 group.sAddrList.used old.group.sAddrList = .kept sources) :
    groupEntrySrcRemLoop env s group done (old :: rest) ret engine =
      groupEntrySrcRemLoop env s group (done ++ [withSources group old sources]) rest ret
        (engine.setEntries s (done ++ withSources group old sources :: rest)
          (engine.groupsList s).entriesNum) := by
  rw [SrcAddrList.used] at hkept
  rw [groupEntrySrcRemLoop]
  simp only [if_pos hmatch, hkept]
  rfl

/-- An entry that goes with the last of the new addresses. -/
theorem groupEntrySrcRemLoop_of_empty {i : Nat} (hmatch : old.group.Matches group)
    (hempty : srcListRem env 0 group.sAddrList.used old.group.sAddrList = .empty i sources)
    (hlast : i + 1 = group.sAddrList.used.length) (hport : env.port old.port ≠ .error) :
    ∃ (ret' : McReturn) (engine' : McEngine), engine'.groupsList = engine.groupsList ∧
      groupEntrySrcRemLoop env s group done (old :: rest) ret engine =
        groupEntrySrcRemLoop env s group done rest ret'
          (engine'.setEntries s (done ++ rest) ((engine'.groupsList s).entriesNum - 1)) := by
  rw [SrcAddrList.used] at hempty hlast
  rw [groupEntrySrcRemLoop]
  simp only [if_pos hmatch, hempty, shortFwdPortCtrl]
  cases hanswer : env.port old.port with
  | error => exact absurd hanswer hport
  | success =>
      exact ⟨_, { engine with device := engine.device.erase old.port }, rfl,
        if_neg (Nat.not_lt.mpr hlast.ge)⟩
  | notAvailable =>
      exact ⟨_, { engine with device := engine.device.erase old.port }, rfl,
        if_neg (Nat.not_lt.mpr hlast.ge)⟩

theorem filter_of_not_emptied (h : ¬Emptied group old) :
    ((old :: rest).filter fun old => ¬Emptied group old) =
      old :: rest.filter fun old => ¬Emptied group old :=
  List.filter_cons_of_pos (decide_eq_true h)

theorem filter_of_emptied (h : Emptied group old) :
    ((old :: rest).filter fun old => ¬Emptied group old) =
      rest.filter fun old => ¬Emptied group old :=
  List.filter_cons_of_neg (by rwa [decide_eq_true_iff, not_not])

/-- The loop goes over the rest of the entries and leaves the ones before. -/
theorem groupEntrySrcRemLoop_spec (rest : List AddedGroup)
    (hsafe : ∀ old ∈ rest, old.group.sAddrList.Valid ∧
      (old.group.Matches group → SrcRemSafeEntry env group old))
    (ret : McReturn) (hentries : (engine.groupsList s).entries = done ++ rest) :
    ∃ ret' after left, groupEntrySrcRemLoop env s group done rest ret engine = some (ret', after) ∧
      (after.groupsList s).entries = done ++ left ∧
      List.Forall₂ (SrcRemoved group) (rest.filter fun old => ¬Emptied group old) left ∧
      ∀ other ≠ s, after.groupsList other = engine.groupsList other := by
  induction rest generalizing done ret engine with
  | nil => exact ⟨ret, engine, [], rfl, hentries, .nil, fun _ _ => rfl⟩
  | cons old rest ih =>
      have hrest := fun entry hentry => hsafe entry (List.mem_cons_of_mem old hentry)
      have ⟨hvalid, hold⟩ := hsafe old List.mem_cons_self
      by_cases hmatch : old.group.Matches group
      · have hsafeOld := hold hmatch
        have hleaves := (@srcListRem_leaves env _ _ _ hvalid hsafeOld.sources).1
        rw [Nat.zero_add] at hleaves
        cases hrem : srcListRem env 0 group.sAddrList.used old.group.sAddrList with
        | kept sources =>
            rw [hrem] at hleaves
            have hkept : ¬Emptied group old := fun hgone => hleaves.2 hgone.2
            have ⟨ret', after, left, hrun, hafter, hleft, hothers⟩ :=
              @ih (engine.setEntries s (done ++ withSources group old sources :: rest)
                (engine.groupsList s).entriesNum) (done ++ [withSources group old sources]) hrest ret
                (by rw [groupsList_setEntries_self, List.append_cons])
            refine ⟨ret', after, withSources group old sources :: left, ?_, ?_, ?_, ?_⟩
            · rw [groupEntrySrcRemLoop_of_kept hmatch hrem]
              exact hrun
            · rw [hafter, ← List.append_cons]
            · rw [filter_of_not_emptied hkept]
              refine .cons ?_ hleft
              rw [SrcRemoved, if_pos hmatch]
              exact ⟨rfl, hleaves.1⟩
            · intro other hother
              rw [hothers other hother, groupsList_setEntries_of_ne engine hother]
        | empty i sources =>
            rw [hrem] at hleaves
            have hgone : Emptied group old := ⟨hmatch, hleaves.1⟩
            have ⟨ret₁, engine', hsame, hstep⟩ := @groupEntrySrcRemLoop_of_empty env engine s group
              done rest old ret sources i hmatch hrem hleaves.2 (hsafeOld.port hleaves.1)
            have ⟨ret', after, left, hrun, hafter, hleft, hothers⟩ :=
              @ih (engine'.setEntries s (done ++ rest) ((engine'.groupsList s).entriesNum - 1)) done
                hrest ret₁ (by rw [groupsList_setEntries_self])
            refine ⟨ret', after, left, ?_, hafter, ?_, ?_⟩
            · rw [hstep]
              exact hrun
            · rw [filter_of_emptied hgone]
              exact hleft
            · intro other hother
              rw [hothers other hother, groupsList_setEntries_of_ne engine' hother, hsame]
      · have hkept : ¬Emptied group old := fun hgone => hmatch hgone.1
        rw [List.append_cons] at hentries
        have ⟨ret', after, left, hrun, hafter, hleft, hothers⟩ := ih hrest ret hentries
        refine ⟨ret', after, old :: left, ?_, ?_, ?_, hothers⟩
        · rw [groupEntrySrcRemLoop_of_not_matches hmatch]
          exact hrun
        · rw [hafter, ← List.append_cons]
        · rw [filter_of_not_emptied hkept]
          refine .cons ?_ hleft
          rw [SrcRemoved, if_neg hmatch]

/-- Sources are removed right if each can be removed when its turn comes. -/
theorem srcRemRight_of_safe (hvalid : ∀ old ∈ (engine.groupsList s).entries,
    old.group.sAddrList.Valid) (hsafe : engine.SrcRemSafe env s group) :
    engine.SrcRemRight env s group := by
  have ⟨hlocked, hall⟩ := hsafe
  have ⟨ret, after, left, hrun, hafter, hleft, hothers⟩ :=
    @groupEntrySrcRemLoop_spec env engine s group [] (engine.groupsList s).entries
      (fun old hold => ⟨hvalid old hold, hall old hold⟩) .success rfl
  rw [List.nil_append] at hafter
  refine ⟨ret, after, ?_, ?_⟩
  · rw [groupEntrySrcRem, hlocked]
    exact hrun
  · exact
      { entries := hafter ▸ hleft
        others := hothers
        within := fun old hold hmatch =>
          (srcListRem_leaves (hvalid old hold) (hall old hold hmatch).sources).2 }

end Entries

/-- New sources are added right exactly when each entry has room for them or none at all; and
sources are removed right if each can be removed when its turn comes. -/
theorem srcUpdates_right (env : McEnv) {engine : McEngine} {s : Option SubscrIdx} (group : McGroup)
    (hvalid : ∀ old ∈ (engine.groupsList s).entries, old.group.sAddrList.Valid) :
    (engine.SrcAddRight s group ↔ engine.SrcAddFits s group) ∧
      (engine.SrcRemSafe env s group → engine.SrcRemRight env s group) :=
  ⟨srcAddRight_iff group hvalid, srcRemRight_of_safe hvalid⟩

/-! ## Runs -/

/-- A group with sources. -/
def sourcesGroup (state : SrcAddrListState) (sources : List (BitVec 32)) : McGroup where
  gAddr := 0xE0010101
  gState := .includes
  sAddrList := ⟨sources ++ List.replicate (10 - sources.length) 0, sources.length⟩
  sAddrListState := state
  vlan := 1

def sourcesEngine (sources : List (BitVec 32)) : McEngine :=
  McEngine.init.setEntries none [⟨sourcesGroup .na sources, 0, 1, false, 0, 0, 0⟩] 1

/-- A device that does what it is asked for. -/
def sourcesEnv : McEnv where
  fidGet := some 1
  fidAdd := none
  clock := some 0
  port := fun _ => .success
  memory := true
  behind := fun _ => 0

theorem entries_sourcesEngine (sources : List (BitVec 32)) :
    ((sourcesEngine sources).groupsList none).entries =
      [⟨sourcesGroup .na sources, 0, 1, false, 0, 0, 0⟩] := by
  rw [sourcesEngine, groupsList_setEntries_self]

/-- A fourth source is added to three, and the first of three is removed. -/
theorem srcUpdates_right_first :
    (sourcesEngine [1, 2, 3]).SrcAddRight none (sourcesGroup .allowNewSources [4]) ∧
      (sourcesEngine [1, 2, 3]).SrcRemRight sourcesEnv none (sourcesGroup .blockOldSources [1]) := by
  have hvalid : ∀ old ∈ ((sourcesEngine [1, 2, 3]).groupsList none).entries,
      old.group.sAddrList.Valid := by
    rw [entries_sourcesEngine]
    intro old hold
    rw [List.mem_singleton.mp hold]
    exact { length_sAddr := rfl, sAddrNum_le := by decide }
  have hfits : (sourcesEngine [1, 2, 3]).SrcAddFits none (sourcesGroup .allowNewSources [4]) := by
    refine ⟨rfl, ?_⟩
    rw [entries_sourcesEngine]
    decide
  have hremovable : SourcesRemovable 0 [1] [1, 2, 3] :=
    { removable := fun front addr rest hsplit before after hsources => by
        cases front with
        | cons first front => simp at hsplit
        | nil =>
            have ⟨haddr, _⟩ := List.cons.inj hsplit
            subst haddr
            cases before with
            | nil =>
                have ⟨_, hafter⟩ := List.cons.inj hsources
                exact .inr ⟨rfl, hafter ▸ by decide⟩
            | cons source before =>
                have ⟨_, hlater⟩ := List.cons.inj hsources
                have hmem : (1 : BitVec 32) ∈ before ++ 1 :: after :=
                  List.mem_append_right before List.mem_cons_self
                have hlater' : [(2 : BitVec 32), 3] = before ++ 1 :: after := hlater
                rw [← hlater'] at hmem
                exact absurd hmem (by decide)
      last := fun front addr rest hsplit _ => by
        cases front with
        | cons first front => simp at hsplit
        | nil => exact (List.cons.inj hsplit).2.symm
      nonempty := nofun }
  have hsafe : (sourcesEngine [1, 2, 3]).SrcRemSafe sourcesEnv none
      (sourcesGroup .blockOldSources [1]) := by
    refine ⟨rfl, ?_⟩
    rw [entries_sourcesEngine]
    intro old hold _
    rw [List.mem_singleton.mp hold]
    exact { sources := hremovable, port := fun _ => nofun }
  exact ⟨(srcUpdates_right sourcesEnv _ hvalid).1.mpr hfits,
    (srcUpdates_right sourcesEnv _ hvalid).2 hsafe⟩

/-- Two new sources where there is room for one; and the second of three sources, which is not
removed: the third one is. -/
theorem not_srcUpdates_right :
    ¬(sourcesEngine [1, 2, 3, 4, 5, 6, 7, 8, 9]).SrcAddRight none
        (sourcesGroup .allowNewSources [10, 11]) ∧
      ¬(sourcesEngine [1, 2, 3]).SrcRemRight sourcesEnv none
        (sourcesGroup .blockOldSources [2]) := by
  constructor
  · have hvalid : ∀ old ∈ ((sourcesEngine [1, 2, 3, 4, 5, 6, 7, 8, 9]).groupsList none).entries,
        old.group.sAddrList.Valid := by
      rw [entries_sourcesEngine]
      intro old hold
      rw [List.mem_singleton.mp hold]
      exact { length_sAddr := rfl, sAddrNum_le := by decide }
    rw [srcAddRight_iff _ hvalid]
    intro hfits
    have hentry := hfits.2
    rw [entries_sourcesEngine] at hentry
    exact absurd (hentry _ List.mem_cons_self ⟨rfl, rfl⟩) (by decide)
  · intro hright
    have ⟨ret, after, hrun, houtcome⟩ := hright
    have hafter := (Prod.mk.inj (Option.some.inj hrun)).2
    have hentries := houtcome.entries
    rw [← hafter] at hentries
    have hone : List.Forall₂ (SrcRemoved (sourcesGroup .blockOldSources [2]))
        [⟨sourcesGroup .na [1, 2, 3], 0, 1, false, 0, 0, 0⟩]
        [⟨{ sourcesGroup .blockOldSources [1, 2, 3] with
          sAddrList := ⟨[1, 2, 3, 0, 0, 0, 0, 0, 0, 0], 2⟩ }, 0, 1, false, 0, 0, 0⟩] := hentries
    have hremoved := (List.forall₂_cons.mp hone).1
    rw [SrcRemoved, if_pos (by decide)] at hremoved
    exact absurd hremoved.2 (by decide)

end McEngine

end FalconGpon.Api
