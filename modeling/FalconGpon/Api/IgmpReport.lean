/-
# Reports of IGMPv3

`mcc_igmp_action_v3_report_get` turns the group records of a report into records of an action.
The step to the next group record takes its counts from the word of the group address, so where
the second record is looked for depends on the group of the first.
-/

import FalconGpon.Api.Multicast
import FalconGpon.Mcc.ReportEncoding

namespace FalconGpon.Api

open FalconGpon.Lib FalconGpon.Mcc

/-! ## The action -/

/-- `enum mcc_igmp_version`. -/
inductive IgmpVersion
  | na
  | v1
  | v2
  | v3
deriving DecidableEq

/-- `struct mcc_mc_group`, as a record of an action. -/
structure IgmpGroup extends McGroup where
  igmpV : IgmpVersion
  cAddr : BitVec 32
deriving DecidableEq

/-- What `act_do` points to. -/
inductive IgmpActionDo
  | v2ActionGroupDo
  | v3ActionGroupDo
deriving DecidableEq

/-- `struct mcc_igmp_action`. -/
structure IgmpAction where
  recList : Nat → IgmpGroup
  count : Nat
  actDo : Option IgmpActionDo

/-- Write record number `i`. -/
def IgmpAction.setRec (action : IgmpAction) (i : Nat) (group : IgmpGroup) : IgmpAction :=
  { action with recList := Function.update action.recList i group }

/-- `struct mcc_pkt_info`: where the report lies, the outer VLAN tag and the source address. -/
structure IgmpPktInfo where
  p : Int
  outerVlan : Option (BitVec 16)
  saddr : BitVec 32

/-- `MCC_IGMP_GROUP_REC_LIST_COUNT_MAX`. -/
def mccIgmpGroupRecListCountMax : Nat := 10

/-- The group state and the state of the source list for a record type; other types are not
handled. -/
def recTypeStates (type : BitVec 8) : Option (McGroupState × SrcAddrListState) :=
  if type = 3 then some (.includes, .na)
  else if type = 4 then some (.excludes, .na)
  else if type = 5 then some (.includes, .allowNewSources)
  else if type = 6 then some (.includes, .blockOldSources)
  else none

def read32 (buf : RxBuffer) (p : Int) : Traced Access (BitVec 32) :=
  .emit ⟨p, 4⟩ (buf.field32 p)

/-- Read the sources of the group record at `r`. -/
def sourcesRead (buf : RxBuffer) (r : Int) : Nat → Traced Access (List (BitVec 32))
  | 0 => pure []
  | n + 1 => do
      let sources ← sourcesRead buf r n
      let source ← read32 buf (r + 8 + 4 * n)
      pure (sources ++ [source])

/-- How a round of the loop over the group records ends. -/
inductive RecordRound
  /-- The next group record is looked for at `r`. -/
  | next (r : Int) (action : IgmpAction)
  | failed (action : IgmpAction)

def groupStarted (old : IgmpGroup) (gAddr : BitVec 32) : IgmpGroup :=
  { old with gAddr, igmpV := .v3, gState := .includes, sAddrListState := .na }

/-- The record with all that a group record says. -/
def groupRead (info : IgmpPktInfo) (old : IgmpGroup) (gAddr : BitVec 32)
    (states : McGroupState × SrcAddrListState) (sources : List (BitVec 32)) : IgmpGroup where
  gAddr := gAddr
  igmpV := .v3
  gState := states.1
  sAddrListState := states.2
  sAddrList := ⟨sources ++ old.sAddrList.sAddr.drop sources.length, sources.length⟩
  vlan := (info.outerVlan.map (· &&& 0xFFF)).getD 0
  cAddr := info.saddr

/-- A round of the loop of `mcc_igmp_action_v3_report_get`, for the group record at `r`. -/
def v3RecordGet (buf : RxBuffer) (info : IgmpPktInfo) (recNum : BitVec 16) (i : Nat) (r : Int)
    (action : IgmpAction) : Traced Access RecordRound := do
  let sNum ← buf.read16 (r + 2)
  if mccIgmpSourceAddrListCountMax < sNum.toNat then pure (.failed action)
  else
    let gAddr ← read32 buf (r + 4)
    let type ← buf.read8 r
    match recTypeStates type with
    | none => pure (.failed (action.setRec i (groupStarted (action.recList i) gAddr)))
    | some states =>
        -- the skipped records would be those of a report without records
        if states.2 ≠ .na ∧ recNum = 0 then
          pure (.next r (action.setRec i (groupStarted (action.recList i) gAddr)))
        else
          let sources ← sourcesRead buf r sNum.toNat
          -- `rec` points to the group address already when the counts are read
          let auxNum ← buf.read8 (r + 5)
          let skipped ← buf.read16 (r + 6)
          pure (.next (r + 4 + 4 * (auxNum.toNat + skipped.toNat : Nat))
            { action.setRec i (groupRead info (action.recList i) gAddr states sources) with
              count := action.count + 1 })

/-- The loop of `mcc_igmp_action_v3_report_get` over the group records from number `i` on. -/
def v3RecordsGet (buf : RxBuffer) (info : IgmpPktInfo) (recNum : BitVec 16) :
    Nat → Nat → Int → IgmpAction → Traced Access (McReturn × IgmpAction)
  | 0, _, _, action => pure (.success, { action with actDo := some .v3ActionGroupDo })
  | n + 1, i, r, action => do
      match ← v3RecordGet buf info recNum i r action with
      | .failed action => pure (.error, action)
      | .next r action => v3RecordsGet buf info recNum n (i + 1) r action

/-- `mcc_igmp_action_v3_report_get`. -/
def mccIgmpActionV3ReportGet (buf : RxBuffer) (info : IgmpPktInfo) (action : IgmpAction) :
    Traced Access (McReturn × IgmpAction) := do
  let recNum ← buf.read16 (info.p + 6)
  if mccIgmpGroupRecListCountMax < recNum.toNat then pure (.error, action)
  else v3RecordsGet buf info recNum recNum.toNat 0 (info.p + 8) { action with count := 0 }

/-! ## What it should do -/

/-- A report of IGMPv3 that the engine supports. -/
structure Supported (report : Report .igmp) : Prop where
  records : report.records.length ≤ mccIgmpGroupRecListCountMax
  sources : ∀ rec ∈ report.records, rec.sources.length ≤ mccIgmpSourceAddrListCountMax
  type : ∀ rec ∈ report.records, 1 ≤ rec.type.toNat ∧ rec.type.toNat ≤ 6
  /-- The groups are multicast addresses. -/
  group : ∀ rec ∈ report.records, 0xE0000000 ≤ rec.group.toNat ∧ rec.group.toNat < 0xF0000000

def modeOf (type : BitVec 8) : McGroupState :=
  if type = 2 ∨ type = 4 then .excludes else .includes

def listStateOf (type : BitVec 8) : SrcAddrListState :=
  if type = 5 then .allowNewSources else if type = 6 then .blockOldSources else .na

/-- A record of the action says what the group record says. -/
structure RecordGiven (rec : GroupRecord .igmp) (group : IgmpGroup) : Prop where
  gAddr : group.gAddr = rec.group
  gState : group.gState = modeOf rec.type
  sAddrListState : group.sAddrListState = listStateOf rec.type
  sAddrNum : group.sAddrList.sAddrNum = rec.sources.length
  sources : group.sAddrList.sAddr.take rec.sources.length = rec.sources

def InReport (p : Int) (report : Report .igmp) (a : Access) : Prop :=
  p ≤ a.offset ∧ a.offset + a.width ≤ p + report.bytes.length

/-- One record for each group record, in order, and no read outside the report. -/
structure ReportGiven (p : Int) (report : Report .igmp)
    (run : Traced Access (McReturn × IgmpAction)) : Prop where
  complete : ∃ action, run.result = some (.success, action) ∧
    action.count = report.records.length ∧ action.actDo = some .v3ActionGroupDo ∧
    ∀ k (hk : k < report.records.length), RecordGiven report.records[k] (action.recList k)
  inside : run.All (InReport p report)

/-- The words that the step to the next group record skips behind the group address. -/
def groupWords (group : BitVec 32) : Nat :=
  (group.extractLsb' 16 8).toNat + (group.extractLsb' 0 16).toNat

/-- How far the steps lead over group records. -/
def walked (records : List (GroupRecord .igmp)) : Nat :=
  (records.map fun rec => 4 + 4 * groupWords rec.group).sum

/-- At `r` the report has the head, the group and the sources of a group record, with a type that
is handled like its own. -/
structure StandsAt (buf : RxBuffer) (p : Int) (report : Report .igmp) (r : Int)
    (rec : GroupRecord .igmp) : Prop where
  inside : r + 8 + 4 * rec.sources.length ≤ p + report.bytes.length
  type : recTypeStates (buf.data r) = some (modeOf rec.type, listStateOf rec.type)
  sNum : (buf.field16 (r + 2)).toNat = rec.sources.length
  group : buf.field32 (r + 4) = rec.group
  sources : ∀ k (hk : k < rec.sources.length), buf.field32 (r + 8 + 4 * k) = rec.sources[k]

/-! ## A round -/

section Round

variable {buf : RxBuffer} {info : IgmpPktInfo} {recNum : BitVec 16} {i : Nat} {r : Int}
  {action : IgmpAction}

@[simp] theorem result_read32 (p : Int) : (read32 buf p).result = some (buf.field32 p) :=
  rfl

theorem result_sourcesRead (n : Nat) : (sourcesRead buf r n).result =
      some ((List.range n).map fun k : Nat => buf.field32 (r + 8 + 4 * k)) := by
  induction n with
  | zero => rfl
  | succ n ih => simp [sourcesRead, ih, List.range_succ]

theorem all_sourcesRead {P : Access → Prop} {n : Nat} :
    (sourcesRead buf r n).All P ↔ ∀ k < n, P ⟨r + 8 + 4 * k, 4⟩ := by
  induction n with
  | zero => exact iff_of_true nofun nofun
  | succ n ih =>
      simp only [sourcesRead, read32, Traced.all_bind, ih, Traced.all_emit, Traced.all_pure,
        implies_true, and_true, Nat.forall_lt_succ_right, result_sourcesRead, Option.some.injEq,
        forall_eq']

def v3RecordStep (buf : RxBuffer) (r : Int) : Int :=
  r + 4 + 4 * ((buf.data (r + 5)).toNat + (buf.field16 (r + 6)).toNat : Nat)

/-- The action with record number `i` read. -/
def v3RecordRead (buf : RxBuffer) (info : IgmpPktInfo) (i : Nat) (r : Int) (action : IgmpAction)
    (states : McGroupState × SrcAddrListState) : IgmpAction :=
  { action.setRec i (groupRead info (action.recList i) (buf.field32 (r + 4)) states
      ((List.range (buf.field16 (r + 2)).toNat).map fun k : Nat => buf.field32 (r + 8 + 4 * k))) with
    count := action.count + 1 }

theorem recList_v3RecordRead (states : McGroupState × SrcAddrListState) :
    (v3RecordRead buf info i r action states).recList i =
      groupRead info (action.recList i) (buf.field32 (r + 4)) states
        ((List.range (buf.field16 (r + 2)).toNat).map fun k : Nat => buf.field32 (r + 8 + 4 * k)) :=
  Function.update_self ..

/-- A round that does not fail, and its reads. -/
theorem v3RecordGet_next {states : McGroupState × SrcAddrListState} (hnum : recNum ≠ 0)
    (hfew : (buf.field16 (r + 2)).toNat ≤ mccIgmpSourceAddrListCountMax)
    (htype : recTypeStates (buf.data r) = some states) :
    (v3RecordGet buf info recNum i r action).result =
        some (.next (v3RecordStep buf r) (v3RecordRead buf info i r action states)) ∧
      ∀ P : Access → Prop, (v3RecordGet buf info recNum i r action).All P ↔
        P ⟨r + 2, 2⟩ ∧ P ⟨r + 4, 4⟩ ∧ P ⟨r, 1⟩ ∧
          (∀ k < (buf.field16 (r + 2)).toNat, P ⟨r + 8 + 4 * k, 4⟩) ∧
          P ⟨r + 5, 1⟩ ∧ P ⟨r + 6, 2⟩ := by
  have hskip : ¬(states.2 ≠ .na ∧ recNum = 0) := fun h => hnum h.2
  constructor
  · simp only [v3RecordGet, RxBuffer.read16, RxBuffer.read8, Traced.result_bind, Traced.result_emit,
      Option.bind_some, if_neg (Nat.not_lt.mpr hfew), result_read32, htype, if_neg hskip,
      result_sourcesRead, Traced.result_pure]
    rfl
  · intro P
    simp only [v3RecordGet, RxBuffer.read16, RxBuffer.read8, read32, Traced.all_bind,
      Traced.all_emit, Traced.result_emit, Option.some.injEq, forall_eq',
      if_neg (Nat.not_lt.mpr hfew), htype, if_neg hskip, all_sourcesRead, result_sourcesRead,
      Traced.all_pure, and_true]

theorem v3RecordGet_failed (h : mccIgmpSourceAddrListCountMax < (buf.field16 (r + 2)).toNat ∨
      recTypeStates (buf.data r) = none) :
    ∃ after, (v3RecordGet buf info recNum i r action).result = some (.failed after) := by
  by_cases hmany : mccIgmpSourceAddrListCountMax < (buf.field16 (r + 2)).toNat
  · exact ⟨action, by simp [v3RecordGet, hmany, RxBuffer.read16]⟩
  · have htype := h.resolve_left hmany
    exact ⟨action.setRec i (groupStarted (action.recList i) (buf.field32 (r + 4))), by
      simp [v3RecordGet, hmany, htype, RxBuffer.read16, RxBuffer.read8]⟩

end Round

/-! ## What a round reads -/

section Given

variable {buf : RxBuffer} {info : IgmpPktInfo} {i : Nat} {r : Int} {action : IgmpAction}
  {report : Report .igmp} {rec : GroupRecord .igmp}

theorem map_field32_eq_iff {n : Nat} {sources : List (BitVec 32)} (hnum : n = sources.length) :
    ((List.range n).map fun k : Nat => buf.field32 (r + 8 + 4 * k)) = sources ↔
      ∀ k (hk : k < sources.length), buf.field32 (r + 8 + 4 * k) = sources[k] := by
  subst hnum
  constructor
  · intro heq k hk
    have hget := congrArg (fun words => words[k]?) heq
    simpa [hk] using hget
  · intro hall
    refine List.ext_getElem (by simp) fun k _ hk => ?_
    rw [List.getElem_map, List.getElem_range]
    exact hall k hk

/-- A round gives a group record if that stands where it is looked for. -/
theorem recordGiven_iff {states : McGroupState × SrcAddrListState}
    (htype : recTypeStates (buf.data r) = some states)
    (hinside : r + 8 + 4 * (buf.field16 (r + 2)).toNat ≤ info.p + report.bytes.length) :
    RecordGiven rec ((v3RecordRead buf info i r action states).recList i) ↔
      StandsAt buf info.p report r rec := by
  rw [recList_v3RecordRead]
  constructor
  · intro h
    have hnum : (buf.field16 (r + 2)).toNat = rec.sources.length := by
      have hlength := h.sAddrNum
      simpa [groupRead] using hlength
    have hread := h.sources
    rw [groupRead, List.take_left' (by simp [hnum])] at hread
    exact
      { inside := by rwa [← hnum]
        type := htype.trans (congrArg some (Prod.ext h.gState h.sAddrListState))
        sNum := hnum
        group := h.gAddr
        sources := (map_field32_eq_iff hnum).mp hread }
  · intro h
    have hstates := Option.some.inj (htype.symm.trans h.type)
    rw [(map_field32_eq_iff h.sNum).mpr h.sources, hstates]
    exact
      { gAddr := h.group
        gState := rfl
        sAddrListState := rfl
        sAddrNum := rfl
        sources := List.take_left }

/-- The reads of a round stay inside the report if the last one does. -/
theorem inReport_iff {n : Nat} (hr : info.p ≤ r) :
    InReport info.p report ⟨r + 2, 2⟩ ∧ InReport info.p report ⟨r + 4, 4⟩ ∧
        InReport info.p report ⟨r, 1⟩ ∧
        (∀ k < n, InReport info.p report ⟨r + 8 + 4 * k, 4⟩) ∧
        InReport info.p report ⟨r + 5, 1⟩ ∧ InReport info.p report ⟨r + 6, 2⟩ ↔
      r + 8 + 4 * n ≤ info.p + report.bytes.length := by
  simp only [InReport]
  constructor
  · intro ⟨_, hgroup, _, hsources, _, _⟩
    cases n with
    | zero => omega
    | succ n =>
        have hlast := hsources n (Nat.lt_succ_self n)
        omega
  · intro hle
    refine ⟨by omega, by omega, by omega, fun k hk => by omega, by omega, by omega⟩

theorem v3RecordStep_of_group {group : BitVec 32} (h : buf.field32 (r + 4) = group) :
    v3RecordStep buf r = r + (4 + 4 * groupWords group : Nat) := by
  have hbyte : group.extractLsb' 16 8 = buf.data (r + 5) := by
    have hfirst : (buf.field16 (r + 4)).extractLsb' 0 8 = buf.data (r + 4 + 1) :=
      (BitVec.extractLsb'_append_eq_of_add_le (by decide)).trans BitVec.extractLsb'_eq_self
    have hhigh : (buf.field32 (r + 4)).extractLsb' 16 8 = (buf.field16 (r + 4)).extractLsb' 0 8 :=
      BitVec.extractLsb'_append_eq_of_le (by decide)
    rw [← h, hhigh, hfirst, Int.add_assoc]
    rfl
  have hword : group.extractLsb' 0 16 = buf.field16 (r + 6) := by
    rw [← h]
    exact (BitVec.extractLsb'_append_eq_of_add_le (by decide)).trans (by
      rw [Int.add_assoc]
      exact BitVec.extractLsb'_eq_self)
  rw [v3RecordStep, groupWords, hbyte, hword]
  push_cast
  ring

end Given

/-! ## The loop -/

section Loop

variable {buf : RxBuffer} {info : IgmpPktInfo} {recNum : BitVec 16} {i n : Nat} {r : Int}
  {action after : IgmpAction} {report : Report .igmp}

theorem v3RecordsGet_of_failed
    (h : (v3RecordGet buf info recNum i r action).result = some (.failed after)) :
    (v3RecordsGet buf info recNum (n + 1) i r action).result = some (.error, after) := by
  simp [v3RecordsGet, h]

theorem v3RecordsGet_of_next {next : Int}
    (h : (v3RecordGet buf info recNum i r action).result = some (.next next after)) :
    (v3RecordsGet buf info recNum (n + 1) i r action).result =
        (v3RecordsGet buf info recNum n (i + 1) next after).result ∧
      ∀ P : Access → Prop, (v3RecordsGet buf info recNum (n + 1) i r action).All P ↔
        (v3RecordGet buf info recNum i r action).All P ∧
          (v3RecordsGet buf info recNum n (i + 1) next after).All P := by
  simp [v3RecordsGet, h]

/-- A round goes on or fails. -/
theorem v3RecordGet_cases :
    (∃ after, (v3RecordGet buf info recNum i r action).result = some (.failed after)) ∨
      ∃ states, (buf.field16 (r + 2)).toNat ≤ mccIgmpSourceAddrListCountMax ∧
        recTypeStates (buf.data r) = some states := by
  by_cases hmany : mccIgmpSourceAddrListCountMax < (buf.field16 (r + 2)).toNat
  · exact .inl (v3RecordGet_failed (.inl hmany))
  · cases htype : recTypeStates (buf.data r) with
    | none => exact .inl (v3RecordGet_failed (.inr htype))
    | some states => exact .inr ⟨states, Nat.not_lt.mp hmany, rfl⟩

theorem v3RecordsGet_keeps (hnum : recNum ≠ 0) {k : Nat} (hk : k < i)
    (h : (v3RecordsGet buf info recNum n i r action).result = some (.success, after)) :
    after.recList k = action.recList k := by
  induction n generalizing i r action with
  | zero =>
      cases h
      rfl
  | succ n ih =>
      rcases @v3RecordGet_cases buf info recNum i r action with
        ⟨failed, hfailed⟩ | ⟨states, hfew, htype⟩
      · rw [v3RecordsGet_of_failed hfailed] at h
        cases h
      · have hnext := (@v3RecordGet_next buf info recNum i r action states hnum hfew htype).1
        rw [(v3RecordsGet_of_next hnext).1] at h
        have hread : (v3RecordRead buf info i r action states).recList k = action.recList k :=
          Function.update_of_ne hk.ne _ _
        rw [ih (Nat.lt_succ_of_lt hk) h, hread]

/-- The loop gives these group records from number `i` on, with no read outside the report. -/
structure LoopGiven (p : Int) (report : Report .igmp) (records : List (GroupRecord .igmp)) (i : Nat)
    (action : IgmpAction) (run : Traced Access (McReturn × IgmpAction)) : Prop where
  complete : ∃ after, run.result = some (.success, after) ∧
    after.count = action.count + records.length ∧ after.actDo = some .v3ActionGroupDo ∧
    ∀ k (hk : k < records.length), RecordGiven records[k] (after.recList (i + k))
  inside : run.All (InReport p report)

/-- One round of the loop. -/
theorem loopGiven_cons_iff {rec : GroupRecord .igmp} {records : List (GroupRecord .igmp)}
    (hnum : recNum ≠ 0) (hr : info.p ≤ r)
    (hfew : rec.sources.length ≤ mccIgmpSourceAddrListCountMax) :
    LoopGiven info.p report (rec :: records) i action
        (v3RecordsGet buf info recNum (records.length + 1) i r action) ↔
      StandsAt buf info.p report r rec ∧ ∃ states,
        LoopGiven info.p report records (i + 1) (v3RecordRead buf info i r action states)
          (v3RecordsGet buf info recNum records.length (i + 1)
            (r + (4 + 4 * groupWords rec.group : Nat))
            (v3RecordRead buf info i r action states)) ∧
        recTypeStates (buf.data r) = some states := by
  rcases @v3RecordGet_cases buf info recNum i r action with
    ⟨failed, hfailed⟩ | ⟨states, hfew', htype⟩
  · refine iff_of_false (fun h => ?_) fun ⟨hstands, _⟩ => ?_
    · have ⟨after, hrun, _⟩ := h.complete
      rw [v3RecordsGet_of_failed hfailed] at hrun
      cases hrun
    · have hnext := (@v3RecordGet_next buf info recNum i r action _ hnum
        (hstands.sNum.trans_le hfew) hstands.type).1
      rw [hfailed] at hnext
      cases hnext
  · have ⟨hnext, hreads⟩ := @v3RecordGet_next buf info recNum i r action states hnum hfew' htype
    have ⟨hrun, hall⟩ := @v3RecordsGet_of_next buf info recNum i records.length r action _ _ hnext
    have hround := (hreads (InReport info.p report)).trans (inReport_iff hr)
    constructor
    · intro h
      have ⟨after, hresult, hcount, hdo, hgiven⟩ := h.complete
      rw [hrun] at hresult
      have ⟨hinside, hrest⟩ := (hall _).mp h.inside
      have hfirst := hgiven 0 (Nat.succ_pos _)
      rw [List.getElem_cons_zero, Nat.add_zero,
        v3RecordsGet_keeps hnum (Nat.lt_succ_self i) hresult] at hfirst
      have hstands := (recordGiven_iff htype (hround.mp hinside)).mp hfirst
      rw [v3RecordStep_of_group hstands.group] at hresult hrest
      refine ⟨hstands, states, ⟨⟨after, hresult, ?_, hdo, fun k hk => ?_⟩, hrest⟩, htype⟩
      · show after.count = action.count + 1 + records.length
        rw [hcount, List.length_cons]
        omega
      · have hnth := hgiven (k + 1) (Nat.succ_lt_succ hk)
        rwa [List.getElem_cons_succ, Nat.add_comm k 1, ← Nat.add_assoc] at hnth
    · intro ⟨hstands, states', hloop, htype'⟩
      obtain rfl := Option.some.inj (htype.symm.trans htype')
      have ⟨after, hresult, hcount, hdo, hgiven⟩ := hloop.complete
      have hinside : r + 8 + 4 * (buf.field16 (r + 2)).toNat ≤ info.p + report.bytes.length := by
        rw [hstands.sNum]
        exact hstands.inside
      have hstep := v3RecordStep_of_group hstands.group
      refine ⟨⟨after, ?_, ?_, hdo, fun k hk => ?_⟩, (hall _).mpr ⟨hround.mpr hinside, ?_⟩⟩
      · rw [hrun, hstep]
        exact hresult
      · have hone : (v3RecordRead buf info i r action states).count = action.count + 1 := rfl
        rw [hcount, hone, List.length_cons]
        omega
      · cases k with
        | zero =>
            rw [List.getElem_cons_zero, Nat.add_zero,
              v3RecordsGet_keeps hnum (Nat.lt_succ_self i) hresult]
            exact (recordGiven_iff htype hinside).mpr hstands
        | succ k =>
            rw [List.getElem_cons_succ, Nat.add_comm k 1, ← Nat.add_assoc]
            exact hgiven k (Nat.lt_of_succ_lt_succ hk)
      · rw [hstep]
        exact hloop.inside

/-- The loop gives the group records that stand where the steps lead. -/
theorem loopGiven_iff (records : List (GroupRecord .igmp)) (hnum : records ≠ [] → recNum ≠ 0)
    (hr : info.p ≤ r)
    (hfew : ∀ rec ∈ records, rec.sources.length ≤ mccIgmpSourceAddrListCountMax) :
    LoopGiven info.p report records i action
        (v3RecordsGet buf info recNum records.length i r action) ↔
      ∀ k (hk : k < records.length),
        StandsAt buf info.p report (r + walked (records.take k)) records[k] := by
  induction records generalizing i r action with
  | nil => exact iff_of_true ⟨⟨_, rfl, rfl, rfl, nofun⟩, Traced.all_pure.mpr trivial⟩ nofun
  | cons rec records ih =>
      have hsome := hnum (List.cons_ne_nil rec records)
      have ⟨hfirst, hothers⟩ := List.forall_mem_cons.mp hfew
      have hrest := fun {action : IgmpAction} => @ih (i + 1)
        (r + (4 + 4 * groupWords rec.group : Nat)) action (fun _ => hsome) (by omega) hothers
      have hplace : ∀ k, r + (4 + 4 * groupWords rec.group : Nat) + walked (records.take k) =
          r + walked ((rec :: records).take (k + 1)) := by
        intro k
        rw [walked, walked, List.take_succ_cons, List.map_cons, List.sum_cons]
        push_cast
        ring
      refine (loopGiven_cons_iff hsome hr hfirst).trans ?_
      constructor
      · intro ⟨hstands, states, hloop, _⟩ k hk
        cases k with
        | zero => simpa [walked] using hstands
        | succ k =>
            rw [← hplace]
            exact hrest.mp hloop k (Nat.lt_of_succ_lt_succ hk)
      · intro hall
        have hstands := hall 0 (Nat.succ_pos _)
        rw [List.take_zero, walked, List.map_nil, List.sum_nil, Int.natCast_zero,
          Int.add_zero] at hstands
        refine ⟨hstands, _, hrest.mpr fun k hk => ?_, hstands.type⟩
        rw [hplace]
        exact hall (k + 1) (Nat.succ_lt_succ hk)

end Loop

/-! ## Reports -/

section Reports

variable {buf : RxBuffer} {r : Int} {report : Report .igmp} {info : IgmpPktInfo}
  {action : IgmpAction}

theorem length_reportBytes (report : Report .igmp) :
    report.bytes.length = 8 + (report.records.flatMap GroupRecord.bytes).length := by
  simp only [Report.bytes, List.length_cons, List.length_append, length_wireBytes]
  omega

/-- With a number of group records that is supported, the loop decides. -/
theorem mccIgmpActionV3ReportGet_eq
    (hnum : (buf.field16 (info.p + 6)).toNat ≤ mccIgmpGroupRecListCountMax) :
    (mccIgmpActionV3ReportGet buf info action).result =
        (v3RecordsGet buf info (buf.field16 (info.p + 6)) (buf.field16 (info.p + 6)).toNat 0
          (info.p + 8) { action with count := 0 }).result ∧
      ∀ P : Access → Prop, (mccIgmpActionV3ReportGet buf info action).All P ↔ P ⟨info.p + 6, 2⟩ ∧
        (v3RecordsGet buf info (buf.field16 (info.p + 6)) (buf.field16 (info.p + 6)).toNat 0
          (info.p + 8) { action with count := 0 }).All P := by
  have hfew := Nat.not_lt.mpr hnum
  constructor
  · simp only [mccIgmpActionV3ReportGet, RxBuffer.read16, Traced.result_bind, Traced.result_emit,
      Option.bind_some, if_neg hfew]
  · intro P
    simp only [mccIgmpActionV3ReportGet, RxBuffer.read16, Traced.all_bind, Traced.all_emit,
      Traced.result_emit, Option.some_inj, forall_eq', if_neg hfew]

/-- A report is turned into an action right exactly if each group record stands where the steps over
the records in front of it lead. -/
theorem reportGiven_iff (hsupported : Supported report) (action : IgmpAction)
    (hlies : Lays buf.data info.p report.bytes) :
    ReportGiven info.p report (mccIgmpActionV3ReportGet buf info action) ↔
      ∀ k (hk : k < report.records.length), StandsAt buf info.p report
        (info.p + 8 + walked (report.records.take k)) report.records[k] := by
  have hnum := (Report.liesAt hlies).num
  have hlength := length_reportBytes report
  have ⟨hrun, hall⟩ := @mccIgmpActionV3ReportGet_eq buf info action
    (hnum.trans_le hsupported.records)
  have hsome : report.records ≠ [] → buf.field16 (info.p + 6) ≠ 0 := by
    intro hne hzero
    rw [hzero] at hnum
    exact hne (List.length_eq_zero_iff.mp hnum.symm)
  have hloop := @loopGiven_iff buf info (buf.field16 (info.p + 6)) 0 (info.p + 8)
    { action with count := 0 } report report.records hsome (by omega) hsupported.sources
  rw [hnum] at hrun hall
  rw [← hloop]
  constructor
  · intro h
    have ⟨after, hresult, hcount, hdo, hgiven⟩ := h.complete
    refine ⟨⟨after, hrun ▸ hresult, ?_, hdo, fun k hk => ?_⟩, ((hall _).mp h.inside).2⟩
    · rw [hcount, Nat.zero_add]
    · rw [Nat.zero_add]
      exact hgiven k hk
  · intro h
    have ⟨after, hresult, hcount, hdo, hgiven⟩ := h.complete
    have hhead : InReport info.p report ⟨info.p + 6, 2⟩ := by
      simp only [InReport]
      omega
    refine ⟨⟨after, hrun.trans hresult, ?_, hdo, fun k hk => ?_⟩, (hall _).mpr ⟨hhead, h.inside⟩⟩
    · rw [hcount, Nat.zero_add]
    · have hnth := hgiven k hk
      rwa [Nat.zero_add] at hnth

end Reports

/-! ## Two reports -/

/-- A packet that is a report. -/
def reportBuffer (report : Report .igmp) (h : report.bytes.length ≤ mccPktMaxSizeByte) :
    RxBuffer where
  data := memOf report.bytes 0
  len := report.bytes.length
  len_le := h

theorem lays_reportBuffer (report : Report .igmp) (h : report.bytes.length ≤ mccPktMaxSizeByte) :
    Lays (reportBuffer report h).data 0 report.bytes := by
  have hlays := @lays_memOf _ [] report.bytes [] (0 : BitVec 8)
  rwa [List.nil_append, List.append_nil] at hlays

/-- An action before anything is read. -/
def blankAction : IgmpAction where
  recList _ := ⟨⟨0, .na, ⟨List.replicate 10 0, 0⟩, .na, 0⟩, .na, 0⟩
  count := 0
  actDo := none

/-- Two group records, the first with a source; its group leads over both words. -/
def ledReport : Report .igmp where
  reserved1 := 0
  checksum := 0
  reserved2 := 0
  records :=
    [⟨5, 0xE0000002#32, [0x0A000001#32], [], by decide, by decide⟩,
      ⟨4, 0xE0010102#32, [], [], by decide, by decide⟩]
  records_lt := by decide

theorem reportGiven_ledReport :
    ReportGiven 0 ledReport
      (mccIgmpActionV3ReportGet (reportBuffer ledReport (by decide)) ⟨0, none, 0⟩ blankAction) := by
  have hsupported : Supported ledReport :=
    { records := by decide
      sources := by decide
      type := by decide
      group := by decide }
  have hfirst : StandsAt (reportBuffer ledReport (by decide)) 0 ledReport 8
      ⟨5, 0xE0000002#32, [0x0A000001#32], [], by decide, by decide⟩ := by
    refine ⟨by decide, by decide, by decide, by decide, fun k hk => ?_⟩
    obtain rfl := Nat.lt_one_iff.mp hk
    show (reportBuffer ledReport (by decide)).field32 16 = 0x0A000001#32
    decide
  have hsecond : StandsAt (reportBuffer ledReport (by decide)) 0 ledReport 20
      ⟨4, 0xE0010102#32, [], [], by decide, by decide⟩ :=
    ⟨by decide, by decide, by decide, by decide, nofun⟩
  refine (@reportGiven_iff _ ledReport ⟨0, none, 0⟩ hsupported blankAction
    (lays_reportBuffer _ _)).mpr fun k hk => ?_
  match k, hk with
  | 0, _ => exact hfirst
  | 1, _ => exact hsecond

/-- Two groups are joined in one report. -/
def joinReport : Report .igmp where
  reserved1 := 0
  checksum := 0
  reserved2 := 0
  records :=
    [⟨4, 0xE0010101#32, [], [], by decide, by decide⟩,
      ⟨4, 0xE0010102#32, [], [], by decide, by decide⟩]
  records_lt := by decide

/-- The step over the first group record leads out of the report. -/
theorem not_reportGiven_joinReport :
    Supported joinReport ∧
      ¬ReportGiven 0 joinReport
        (mccIgmpActionV3ReportGet (reportBuffer joinReport (by decide)) ⟨0, none, 0⟩ blankAction) := by
  have hsupported : Supported joinReport :=
    { records := by decide
      sources := by decide
      type := by decide
      group := by decide }
  refine ⟨hsupported, fun hgiven => ?_⟩
  have hstands := (@reportGiven_iff _ joinReport ⟨0, none, 0⟩ hsupported blankAction
    (lays_reportBuffer _ _)).mp hgiven 1 (by decide)
  exact absurd hstands.inside (by decide)

end FalconGpon.Api
