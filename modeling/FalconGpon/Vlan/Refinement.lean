/-
# The tables as an image of the rules

What the tables of an ME are meant to hold: the translations of its rules in the order of
precedence, downstream each behind a pass-through rule for one vendor. Setting a rule programs
everything anew and gets there unless something is passed over. Deleting a rule takes one row
out of each table, at the index the rule had when the last rule was set; it is the row of the
rule only as long as the two orders have not drifted apart.
-/

import FalconGpon.Vlan.Present

namespace FalconGpon.Vlan

open FalconGpon.Lib Program Vlan.Gpe
open FalconGpon.Omci (OmciError)

section Index

variable {α β : Type*} [DecidableEq α] {f : α → List β} {rules : List α} {a : α} {idx : Nat}

/-- Row `idx` of the concatenated images is the only one that comes from `a`; if none does, it is
behind the end. -/
def OwnRow (f : α → List β) (rules : List α) (a : α) (idx : Nat) : Prop :=
  match f a with
  | [] => (rules.flatMap f).length ≤ idx
  | [_] => idx = ((rules.take (rules.idxOf a)).flatMap f).length
  | _ => False

instance : Decidable (OwnRow f rules a idx) :=
  match hrows : f a with
  | [] => decidable_of_iff ((rules.flatMap f).length ≤ idx) (by rw [OwnRow, hrows])
  | [_] => decidable_of_iff (idx = ((rules.take (rules.idxOf a)).flatMap f).length)
      (by rw [OwnRow, hrows])
  | _ :: _ :: _ => isFalse (by rw [OwnRow, hrows]; exact id)

/-- Taking out the row of an element leaves the images of the others. -/
theorem OwnRow.eraseIdx (h : OwnRow f rules a idx) (ha : a ∈ rules) :
    (rules.flatMap f).eraseIdx idx = (rules.erase a).flatMap f := by
  obtain ⟨before, after, hnot, hrules, herase⟩ := List.exists_erase_eq ha
  rw [OwnRow] at h
  rw [herase, List.flatMap_append]
  cases hrows : f a with
  | nil =>
      rw [hrows] at h
      rw [List.eraseIdx_of_length_le h, hrules, List.flatMap_append, List.flatMap_cons, hrows,
        List.nil_append]
  | cons row rest =>
      rw [hrows] at h
      cases rest with
      | nil =>
          have hpos : rules.idxOf a = before.length := by
            rw [hrules, List.idxOf_append_of_notMem hnot, List.idxOf_cons_self, Nat.add_zero]
          have hidx : idx = (before.flatMap f).length := by
            rw [h, hpos, hrules, List.take_left]
          rw [hrules, List.flatMap_append, List.flatMap_cons, hrows,
            List.eraseIdx_append_of_length_le (Nat.le_of_eq hidx.symm), hidx, Nat.sub_self]
          rfl
      | cons row' rest => exact h.elim

end Index

def usRow (e : RxVlanOperTable) : List GpeEntry :=
  (image false e.filter).toList

/-- The downstream rows of a rule. -/
def dsRows (env : SetContext) (e : RxVlanOperTable) : List GpeEntry :=
  match image true (env.dsFilter e) with
  | none => []
  | some new => if env.vendor = .alcl then [iopDsEntry, new] else [new]

/-- An ME and the hardware, after SETs of its table. -/
structure VlanState where
  /-- The downstream mode of the last SET. -/
  dsMode : BitVec 8
  me : ExtVlanMe
  gpe : Gpe

/-- A SET of the table. -/
structure VlanSet where
  entry : RxVlanOperTable
  def' : Bool
  /-- The downstream mode of the ME at the time. -/
  dsMode : BitVec 8

def SetContext.withDsMode (env : SetContext) (dsMode : BitVec 8) : SetContext :=
  { env with dsMode }

def vlanStep (env : SetContext) (s : VlanState) (set : VlanSet) : Option VlanState :=
  let result := tableSet (env.withDsMode set.dsMode) set.entry set.def' s.me s.gpe
  if result.1 = .success then some ⟨set.dsMode, result.2.1, result.2.2⟩ else none

def VlanState.rules (env : SetContext) (s : VlanState) : List RxVlanOperTable :=
  s.me.oper.sortArray env.vendor

/-- The tables hold the translations of the rules and nothing else. -/
structure VlanState.Refines (env : SetContext) (s : VlanState) : Prop where
  upstream : s.gpe.rules false env.id = (s.rules env).flatMap usRow
  downstream : s.dsMode = 0 → s.gpe.rules true env.id = (s.rules env).flatMap (dsRows env)

/-- The rules can be programmed from empty tables with nothing passed over. -/
@[mk_iff]
structure ProgramsAll (env : SetContext) (sorted : List RxVlanOperTable)
    (recorded : List (BitVec 16)) (g : Gpe) : Prop where
  cleared : Cleared env sorted recorded g
  oneDefault : (usImages sorted).Pairwise fun old new => ¬SameDefault new old
  dsOneDefault : env.dsMode = 0 →
    (sorted.flatMap (dsRows env)).Pairwise fun old new => ¬SameDefault new old
  dsImages : env.dsMode = 0 → env.vendor = .alcl →
    ∀ e ∈ sorted, (image true (env.dsFilter e)).isSome

/-- The stored index of a rule is its row in the tables. -/
@[mk_iff]
structure AtOwnRow (env : SetContext) (s : VlanState) (dsMode : BitVec 8)
    (old : RxVlanOperTableEntry) : Prop where
  upstream : OwnRow usRow (s.rules env) old.data old.idx
  downstream : dsMode = 0 → s.dsMode = 0 ∧ OwnRow (dsRows env) (s.rules env) old.data old.idx

/-- What a SET must meet for the tables to follow the rules. -/
@[mk_iff]
structure Follows (env : SetContext) (s : VlanState) (set : VlanSet) : Prop where
  delete : set.entry.isDelete = true →
    ∀ old ∈ s.me.oper.list, old.data.key = set.entry.key → AtOwnRow env s set.dsMode old
  add : set.entry.isDelete = false →
    ProgramsAll (env.withDsMode set.dsMode)
      ((env.withDsMode set.dsMode).rulesAfter set.entry set.def' s.me) s.me.shadowDs s.gpe

section Decide

variable (env : SetContext) (sorted : List RxVlanOperTable) (recorded : List (BitVec 16)) (g : Gpe)
  (s : VlanState) (dsMode : BitVec 8) (old : RxVlanOperTableEntry) (set : VlanSet)

instance : Decidable (Cleared env sorted recorded g) :=
  inferInstanceAs (Decidable (_ ∧ (_ → _)))

instance : Decidable (ProgramsAll env sorted recorded g) :=
  decidable_of_iff _ (programsAll_iff env sorted recorded g).symm

instance : Decidable (AtOwnRow env s dsMode old) :=
  decidable_of_iff _ (atOwnRow_iff env s dsMode old).symm

instance : Decidable (Follows env s set) :=
  decidable_of_iff _ (follows_iff env s set).symm

end Decide

section Steps

variable {env : SetContext} {s s' : VlanState} {set : VlanSet}

theorem shadowOf_eq_zero (hsplit : (readDualVlanConfig env.file).entries = [])
    (sorted : List RxVlanOperTable) (e : RxVlanOperTable) : env.shadowOf sorted e = 0 := by
  have hentries : (env.config sorted).entries = [] := by
    rw [SetContext.config]
    split
    · rfl
    · exact hsplit
  rw [SetContext.shadowOf, if_pos hentries]

/-- The pass-through rules stand where they are meant to if all rules have an image. -/
theorem dsImages_eq {sorted : List RxVlanOperTable} {shadowOf : RxVlanOperTable → BitVec 16}
    (hall : env.vendor = .alcl →
      ∀ e ∈ sorted, shadowOf e = 0 → (image true (env.dsFilter e)).isSome) :
    dsImages env shadowOf sorted =
      sorted.flatMap fun e => if shadowOf e = 0 then dsRows env e else [] := by
  rw [dsImages]
  apply List.flatMap_congr
  intro e he
  by_cases hzero : shadowOf e = 0
  · rw [if_pos hzero, if_pos hzero, dsRows]
    cases himage : image true (env.dsFilter e) with
    | none =>
        have hvendor : env.vendor ≠ .alcl := by
          intro halcl
          have hsome := hall halcl e he hzero
          rw [himage] at hsome
          cases hsome
        rw [if_neg hvendor]
        rfl
    | some new =>
        dsimp only
        by_cases hvendor : env.vendor = .alcl
        · rw [if_pos hvendor, if_pos hvendor]
          rfl
        · rw [if_neg hvendor, if_neg hvendor]
          rfl
  · rw [if_neg hzero, if_neg hzero]

/-- After a rule was set, the tables hold the translations. -/
theorem tableSet_add {entry : RxVlanOperTable} {def' : Bool} {me : ExtVlanMe} {g : Gpe}
    (hsplit : (readDualVlanConfig env.file).entries = []) (hnew : entry.isDelete = false)
    (hset : (tableSet env entry def' me g).1 = .success)
    (hguard : ProgramsAll env (env.rulesAfter entry def' me) me.shadowDs g) :
    (tableSet env entry def' me g).2.1.oper = (me.oper.set env.vendor entry def').2 ∧
      (tableSet env entry def' me g).2.2.rules false env.id =
        (env.rulesAfter entry def' me).flatMap usRow ∧
      (env.dsMode = 0 → (tableSet env entry def' me g).2.2.rules true env.id =
        (env.rulesAfter entry def' me).flatMap (dsRows env)) := by
  have hzero := shadowOf_eq_zero hsplit (env.rulesAfter entry def' me)
  obtain ⟨hme, hloop⟩ := tableSet_success hnew hset
  obtain ⟨hus, hds⟩ := reprogram_returns hloop hguard.cleared fun e _ => .inl (hzero e)
  refine ⟨congrArg ExtVlanMe.oper hme, ?_, fun hmode => ?_⟩
  · rw [hus]
    exact keepFirst_eq_self_iff.mpr hguard.oneDefault
  · have hrows : (fun e => if env.shadowOf (env.rulesAfter entry def' me) e = 0 then dsRows env e
        else []) = dsRows env := funext fun e => if_pos (hzero e)
    rw [hds hmode, dsImages_eq fun halcl e he _ => hguard.dsImages hmode halcl e he, hrows]
    exact keepFirst_eq_self_iff.mpr (hguard.dsOneDefault hmode)

/-- A rule is deleted successfully: it leaves the list, and its index leaves the tables. -/
theorem tableSet_delete {entry : RxVlanOperTable} {def' : Bool} {me : ExtVlanMe} {g : Gpe}
    (hdelete : entry.isDelete = true) (hset : (tableSet env entry def' me g).1 = .success) :
    ∃ old, me.oper.list.find? (·.hasKey entry.key) = some old ∧
      (tableSet env entry def' me g).2.1 = { me with oper := me.oper.remove entry.key } ∧
      (entryRemove env.id old.idx env.dsMode).Returns g () (tableSet env entry def' me g).2.2 := by
  rw [tableSet, if_pos hdelete] at hset ⊢
  cases hfind : me.oper.list.find? (·.hasKey entry.key) with
  | none =>
      rw [hfind] at hset
      cases hset
  | some old =>
      rw [hfind] at hset
      dsimp only at hset
      have hremoved : (entryRemove env.id old.idx env.dsMode g).1.isSome := by
        by_contra hfail
        rw [if_neg hfail] at hset
        cases hset
      exact ⟨old, rfl, rfl, returns_of_isSome hremoved⟩

/-- The invariant: there is one rule for each key, and the tables hold the translations. -/
structure VlanState.Tracked (env : SetContext) (s : VlanState) : Prop where
  wellFormed : s.me.oper.WellFormed
  refines : s.Refines env

/-- A step that meets the guard keeps the invariant. -/
theorem VlanState.Tracked.step (hsplit : (readDualVlanConfig env.file).entries = [])
    (h : s.Tracked env) (hguard : Follows env s set) (hstep : vlanStep env s set = some s') :
    s'.Tracked env := by
  obtain ⟨hwf, hrefines⟩ := h
  rw [vlanStep] at hstep
  split at hstep
  · next hset =>
      rw [← Option.some.inj hstep]
      by_cases hdelete : set.entry.isDelete = true
      · obtain ⟨old, hfind, hme, hremoved⟩ := tableSet_delete hdelete hset
        have hoper := congrArg ExtVlanMe.oper hme
        obtain ⟨hus, hds⟩ := entryRemove_returns hremoved
        have hmem := List.mem_of_find?_eq_some hfind
        have hrow := hguard.delete hdelete old hmem
          (RxVlanOperTableEntry.hasKey_iff.mp (List.find?_some hfind))
        have hrules := hwf.sortArray_remove hfind env.vendor
        have hin : old.data ∈ s.rules env :=
          (OperList.sortArray_perm env.vendor s.me.oper).mem_iff.mpr (List.mem_map_of_mem hmem)
        have hafter : (s.me.oper.remove set.entry.key).sortArray env.vendor =
            (s.rules env).erase old.data := hrules
        refine ⟨hoper ▸ (hwf.remove _).1, ⟨?_, fun hmode => ?_⟩⟩
        · rw [VlanState.rules, hoper, hafter, ← hrow.upstream.eraseIdx hin, ← hrefines.upstream]
          exact hus
        · obtain ⟨hbefore, hdsRow⟩ := hrow.downstream hmode
          rw [VlanState.rules, hoper, hafter, ← hdsRow.eraseIdx hin,
            ← hrefines.downstream hbefore]
          exact hds hmode
      · have hnew := Bool.eq_false_iff.mpr hdelete
        have hsplit' : (readDualVlanConfig (env.withDsMode set.dsMode).file).entries = [] := hsplit
        obtain ⟨hoper, hus, hds⟩ := tableSet_add hsplit' hnew hset (hguard.add hnew)
        refine ⟨hoper ▸ (hwf.set env.vendor set.entry set.def').2.1, ⟨?_, fun hmode => ?_⟩⟩
        · rw [VlanState.rules, hoper]
          exact hus
        · rw [VlanState.rules, hoper]
          exact hds hmode
  · cases hstep

end Steps

def VlanState.start (g : Gpe) : VlanState :=
  ⟨0, ⟨.init, []⟩, g⟩

/-- In every run of successful SETs that all meet the guard, from empty tables and without a
split, the tables hold the translations of the rules. -/
theorem vlanTables_refine {env : SetContext} {g : Gpe} {s : VlanState}
    (hsplit : (readDualVlanConfig env.file).entries = []) (hempty : ∀ ds, g.rules ds env.id = [])
    (hreach : ReachOn (vlanStep env) (Follows env) (.start g) s) : s.Refines env := by
  have hsorted : (VlanState.start g).rules env = [] := by
    apply List.eq_nil_of_length_eq_zero
    rw [VlanState.rules, (OperList.sortArray_perm env.vendor _).length_eq]
    rfl
  have hstart : (VlanState.start g).Tracked env := by
    refine ⟨⟨List.nodup_nil, rfl, rfl⟩, ⟨?_, fun _ => ?_⟩⟩
    · rw [hsorted]
      exact hempty false
    · rw [hsorted]
      exact hempty true
  exact (hreach.invariant hstart fun _ _ _ hinv hguard hstep =>
    hinv.step hsplit hguard hstep).refines

/-- The request to delete a rule. -/
def RxVlanOperTable.delete (e : RxVlanOperTable) : RxVlanOperTable :=
  { e with
    treatmentTagsRemove := 3, word3Padding := 0x3ff
    treatmentOuterPrio := 15, treatmentOuterVid := 0x1fff, treatmentOuterTpidDe := 7
    word4Padding := 0xfff
    treatmentInnerPrio := 15, treatmentInnerVid := 0x1fff, treatmentInnerTpidDe := 7 }

/-- Setting two rules on fresh hardware, and deleting them in the same order. -/
theorem vlanTables_refine_translateTag :
    ∃ two left, execOn (vlanStep (.plain .hwtc 0)) (Follows (.plain .hwtc 0)) (.start .fresh)
        [⟨translateTag, false, 0⟩, ⟨{ translateTag with filterInnerVid := 6 }, false, 0⟩] = some two ∧
      two.Refines (.plain .hwtc 0) ∧
      execOn (vlanStep (.plain .hwtc 0)) (Follows (.plain .hwtc 0)) two
        [⟨translateTag.delete, false, 0⟩,
          ⟨{ translateTag with filterInnerVid := 6 }.delete, false, 0⟩] = some left ∧
      left.Refines (.plain .hwtc 0) := by
  have htest : ((execOn (vlanStep (.plain .hwtc 0)) (Follows (.plain .hwtc 0)) (.start .fresh)
      [⟨translateTag, false, 0⟩, ⟨{ translateTag with filterInnerVid := 6 }, false, 0⟩]).bind
      fun two => execOn (vlanStep (.plain .hwtc 0)) (Follows (.plain .hwtc 0)) two
        [⟨translateTag.delete, false, 0⟩,
          ⟨{ translateTag with filterInnerVid := 6 }.delete, false, 0⟩]).isSome := by
    decide +kernel
  obtain ⟨left, hexec⟩ := Option.isSome_iff_exists.mp htest
  obtain ⟨two, hset, hdelete⟩ := Option.bind_eq_some_iff.mp hexec
  have htwo := reachOn_of_execOn .refl hset
  exact ⟨two, left, hset, vlanTables_refine rfl (fun _ => rfl) htwo, hdelete,
    vlanTables_refine rfl (fun _ => rfl) (reachOn_of_execOn htwo hdelete)⟩

/-- After the first of two rules was deleted, deleting the other one takes nothing out of the
tables. -/
theorem not_vlanTables_refine :
    ¬∀ (env : SetContext) (g : Gpe) (s : VlanState),
      (readDualVlanConfig env.file).entries = [] → (∀ ds, g.rules ds env.id = []) →
      Reach (vlanStep env) (.start g) s → s.Refines env := by
  intro h
  have htest : (execOn (vlanStep (.plain .hwtc 0)) (fun _ _ => True) (.start .fresh)
      [⟨translateTag, false, 0⟩, ⟨{ translateTag with filterInnerVid := 6 }, false, 0⟩,
        ⟨{ translateTag with filterInnerVid := 6 }.delete, false, 0⟩,
        ⟨translateTag.delete, false, 0⟩]).any
      (fun s => s.me.oper.list.isEmpty ∧ ¬(s.gpe.rules false 1).isEmpty) = true := by
    decide +kernel
  obtain ⟨s, hreach, hnone, hrows⟩ := exists_reachOn_of_execOn htest
  have hrefines := h (.plain .hwtc 0) .fresh s rfl (fun _ => rfl) hreach
  have hrules : s.rules (.plain .hwtc 0) = [] := by
    change s.me.oper.list.map (·.data) = []
    rw [List.isEmpty_iff.mp hnone, List.map_nil]
  have hupstream := hrefines.upstream
  rw [hrules] at hupstream
  exact hrows (List.isEmpty_iff.mpr hupstream)

end FalconGpon.Vlan
