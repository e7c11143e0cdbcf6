/-
# Runs of slot modifications

Each port has at most one slot of an entry, one that its type allows; a modification done again
changes nothing, and one without room is refused. Runs keep this (`run_modifyRight`) if a request
that is stored has a port that seven bits hold and that is in no slot of another type, and if a
list of eight bridges gets no ninth: the highest index then wraps to the first slot.
-/

import FalconGpon.Api.PortSlots
import FalconGpon.Lib.Transition
import Mathlib.Data.Set.Function

namespace FalconGpon.Api

open FalconGpon.Lib

theorem injOn_update_insert {ι κ : Type} [DecidableEq ι] {f : ι → κ} {used : Set ι} {i : ι}
    {x : κ} (h : Set.InjOn f used) (hnew : ∀ j ∈ used, j ≠ i → f j ≠ x) :
    Set.InjOn (Function.update f i x) (insert i used) := by
  intro a ha b hb heq
  by_cases hai : a = i
  · by_cases hbi : b = i
    · exact hai.trans hbi.symm
    · rw [hai, Function.update_self, Function.update_of_ne hbi] at heq
      exact absurd heq.symm (hnew b (hb.resolve_left hbi) hbi)
  · by_cases hbi : b = i
    · rw [hbi, Function.update_self, Function.update_of_ne hai] at heq
      exact absurd heq (hnew a (ha.resolve_left hai) hai)
    · rw [Function.update_of_ne hai, Function.update_of_ne hbi] at heq
      exact h (ha.resolve_left hai) (hb.resolve_left hbi) heq

theorem TableEnv.write_cases {α : Type} (env : TableEnv) (old new : α) :
    (if !env.read then (old, .error) else env.tableWrite old new) = (old, .error) ∨
      (if !env.read then (old, .error) else env.tableWrite old new) = (new, .success) := by
  rw [TableEnv.tableWrite]
  cases env.read with
  | false => exact .inl rfl
  | true =>
      cases env.write with
      | false => exact .inl rfl
      | true => exact .inr rfl

/-! ## Flooding -/

namespace FloodingRow

variable {row : FloodingRow} {isUni : Bool} {lanPort : BitVec 8} {bridgePortIndex : BitVec 16}

def Apart (row : FloodingRow) : Prop :=
  Set.InjOn row.egressBridgePortIndex {slot | row.enable slot = true}

def Filled (row : FloodingRow) : Prop :=
  ∀ slot later : Fin 16, 4 ≤ slot.val → slot < later → row.enable later = true →
    row.enable slot = true

theorem mem_slots {slot : Fin 16} :
    slot ∈ slots isUni lanPort ↔ if isUni then slot.val = lanPort.toNat else 4 ≤ slot.val := by
  rw [slots, List.mem_filter]
  rw [and_iff_right (List.mem_finRange slot)]
  cases isUni <;> exact decide_eq_true_iff

theorem Filled.pairwise (h : row.Filled) :
    (slots isUni lanPort).Pairwise fun slot later =>
      slot < later ∧ (row.enable later = true → row.enable slot = true) := by
  have hlt : (slots isUni lanPort).Pairwise (· < ·) := (List.pairwise_lt_finRange 16).filter _
  refine hlt.imp_of_mem ?_
  intro slot later hslot hlater hslotlater
  refine ⟨hslotlater, fun hused => ?_⟩
  rw [mem_slots] at hslot hlater
  cases isUni with
  | true => exact absurd (Fin.ext (hslot.trans hlater.symm)) hslotlater.ne
  | false => exact h slot later hslot hslotlater hused

/-- The three ends of the loop. -/
theorem search_spec (row : FloodingRow) (bridgePortIndex : BitVec 16) (slots : List (Fin 16)) :
    match row.search bridgePortIndex slots with
    | .found => ∃ slot ∈ slots, row.Holds slot bridgePortIndex
    | .empty slot => ∃ front rest, slots = front ++ slot :: rest ∧ row.enable slot = false ∧
        ∀ other ∈ front, row.enable other = true ∧ ¬ row.Holds other bridgePortIndex
    | .full => ∀ slot ∈ slots, row.enable slot = true ∧ ¬ row.Holds slot bridgePortIndex := by
  induction slots with
  | nil => exact fun slot hslot => absurd hslot List.not_mem_nil
  | cons slot rest ih =>
      rw [search]
      by_cases hholds : row.Holds slot bridgePortIndex
      · rw [if_pos hholds]
        exact ⟨slot, List.mem_cons_self, hholds⟩
      · rw [if_neg hholds]
        cases hused : row.enable slot with
        | false => exact ⟨[], rest, rfl, hused, fun _ hmem => absurd hmem List.not_mem_nil⟩
        | true =>
            rw [Bool.not_true, if_neg Bool.false_ne_true]
            have hself : row.enable slot = true ∧ ¬ row.Holds slot bridgePortIndex :=
              ⟨hused, hholds⟩
            cases hsearch : row.search bridgePortIndex rest with
            | found =>
                rw [hsearch] at ih
                have ⟨other, hother, hat⟩ := ih
                exact ⟨other, List.mem_cons_of_mem _ hother, hat⟩
            | empty other =>
                rw [hsearch] at ih
                have ⟨front, more, hrest, hfree, hfront⟩ := ih
                exact ⟨slot :: front, more, congrArg (slot :: ·) hrest, hfree,
                  List.forall_mem_cons.mpr ⟨hself, hfront⟩⟩
            | full =>
                rw [hsearch] at ih
                exact List.forall_mem_cons.mpr ⟨hself, ih⟩

/-- A port that is there is found. -/
theorem search_eq_found (hfilled : row.Filled) {slot : Fin 16} (hslot : slot ∈ slots isUni lanPort)
    (hholds : row.Holds slot bridgePortIndex) :
    row.search bridgePortIndex (slots isUni lanPort) = .found := by
  have hspec := row.search_spec bridgePortIndex (slots isUni lanPort)
  cases hsearch : row.search bridgePortIndex (slots isUni lanPort) with
  | found => rfl
  | full =>
      rw [hsearch] at hspec
      exact absurd hholds (hspec slot hslot).2
  | empty free =>
      rw [hsearch] at hspec
      have ⟨front, rest, hslots, hfree, hfront⟩ := hspec
      have hpairwise : (free :: rest).Pairwise _ :=
        (List.pairwise_append.mp (hslots ▸ hfilled.pairwise)).2.1
      rw [hslots, List.mem_append] at hslot
      cases hslot with
      | inl hmem => exact absurd hholds (hfront slot hmem).2
      | inr hmem =>
          have hused : row.enable free = true := by
            cases List.mem_cons.mp hmem with
            | inl hsame => exact hsame ▸ hholds.1
            | inr hlater => exact ((List.pairwise_cons.mp hpairwise).1 slot hlater).2 hholds.1
          exact absurd hused (hfree ▸ Bool.false_ne_true)

theorem setWidth_setWidth (h : bridgePortIndex < 128) :
    (bridgePortIndex.setWidth 7).setWidth 16 = bridgePortIndex := by
  refine BitVec.eq_of_toNat_eq ?_
  have hlt : bridgePortIndex.toNat < 128 := h
  simp only [BitVec.toNat_setWidth]
  omega

theorem setWidth_inj {port other : BitVec 7} (h : port.setWidth 16 = other.setWidth 16) :
    port = other := by
  have hnat := congrArg BitVec.toNat h
  rw [BitVec.toNat_setWidth_of_le (by decide), BitVec.toNat_setWidth_of_le (by decide)] at hnat
  exact BitVec.eq_of_toNat_eq hnat

theorem holds_place {slot other : Fin 16} {port : BitVec 16} (hlt : bridgePortIndex < 128) :
    (row.place bridgePortIndex slot).Holds other port ↔
      if other = slot then port = bridgePortIndex else row.Holds other port := by
  rw [Holds, place]
  dsimp only
  split
  · rename_i hother
    rw [hother, Function.update_self, Function.update_self, setWidth_setWidth hlt]
    exact (and_iff_right rfl).trans eq_comm
  · rename_i hother
    rw [Function.update_of_ne hother, Function.update_of_ne hother]
    rfl

theorem Apart.place (h : row.Apart) {slot : Fin 16} (hlt : bridgePortIndex < 128)
    (hnew : ∀ other, ¬ row.Holds other bridgePortIndex) :
    (row.place bridgePortIndex slot).Apart := by
  have hother : ∀ other ∈ {other | row.enable other = true}, other ≠ slot →
      row.egressBridgePortIndex other ≠ bridgePortIndex.setWidth 7 := by
    intro other hused _ heq
    refine hnew other ⟨hused, ?_⟩
    rw [heq, setWidth_setWidth hlt]
  refine (injOn_update_insert h hother).mono fun other hused => ?_
  by_cases hsame : other = slot
  · exact .inl hsame
  · have hbefore : Function.update row.enable slot true other = true := hused
    rw [Function.update_of_ne hsame] at hbefore
    exact .inr hbefore

/-- The first slot that is free. -/
theorem Filled.place (h : row.Filled) {slot : Fin 16} {front rest : List (Fin 16)}
    (hslots : slots isUni lanPort = front ++ slot :: rest) (hlan : ¬ (isUni ∧ 4 ≤ lanPort))
    (hfront : ∀ other ∈ front, row.enable other = true) :
    (row.place bridgePortIndex slot).Filled := by
  intro other later hani hlt hused
  change Function.update row.enable slot true later = true at hused
  change Function.update row.enable slot true other = true
  by_cases hother : other = slot
  · rw [hother, Function.update_self]
  · rw [Function.update_of_ne hother]
    by_cases hlater : later = slot
    · have hmem : other ∈ slots isUni lanPort := by
        have hslot : slot ∈ slots isUni lanPort := by
          rw [hslots]
          exact List.mem_append_right _ List.mem_cons_self
        rw [mem_slots] at hslot ⊢
        cases isUni with
        | false => exact hani
        | true =>
            have hval : slot.val = lanPort.toNat := hslot
            have hsmall : lanPort.toNat < 4 := by
              simpa [BitVec.le_def] using hlan
            have hslotlt : other.val < slot.val := hlater ▸ hlt
            omega
      have hpairwise : (front ++ slot :: rest).Pairwise (· < ·) :=
        hslots ▸ (List.pairwise_lt_finRange 16).filter _
      rw [hslots, List.mem_append] at hmem
      cases hmem with
      | inl hin => exact hfront other hin
      | inr hin =>
          have hbehind : slot < other :=
            (List.pairwise_cons.mp (List.pairwise_append.mp hpairwise).2.1).1 other
              ((List.mem_cons.mp hin).resolve_left hother)
          exact absurd (hlater ▸ hlt) hbehind.asymm
    · rw [Function.update_of_ne hlater] at hused
      exact h other later hani hlt hused

/-- A modification of the entry: nothing is written, or the port comes into a free slot. -/
theorem floodingModify_cases (row : FloodingRow) (env : TableEnv) (isUni : Bool)
    (lanPort : BitVec 8) (bridgePortIndex : BitVec 16) :
    ((row.floodingModify env isUni lanPort bridgePortIndex).1 = row ∧
        ((row.floodingModify env isUni lanPort bridgePortIndex).2 = .success →
          ∃ slot ∈ slots isUni lanPort, row.Holds slot bridgePortIndex)) ∨
      ∃ slot front rest, slots isUni lanPort = front ++ slot :: rest ∧ ¬ (isUni ∧ 4 ≤ lanPort) ∧
        env.read = true ∧ env.write = true ∧ row.enable slot = false ∧
        (∀ other ∈ front, row.enable other = true) ∧
        row.search bridgePortIndex (slots isUni lanPort) = .empty slot ∧
        row.floodingModify env isUni lanPort bridgePortIndex =
          (row.place bridgePortIndex slot, .success) := by
  have hspec := row.search_spec bridgePortIndex (slots isUni lanPort)
  rw [floodingModify]
  by_cases hlan : isUni ∧ 4 ≤ lanPort
  · rw [if_pos hlan]
    exact .inl ⟨rfl, nofun⟩
  · rw [if_neg hlan]
    cases hread : env.read with
    | false => exact .inl ⟨rfl, nofun⟩
    | true =>
        rw [Bool.not_true, if_neg Bool.false_ne_true]
        cases hsearch : row.search bridgePortIndex (slots isUni lanPort) with
        | full => exact .inl ⟨rfl, nofun⟩
        | found =>
            rw [hsearch] at hspec
            exact .inl ⟨rfl, fun _ => hspec⟩
        | empty slot =>
            rw [hsearch] at hspec
            have ⟨front, rest, hslots, hfree, hfront⟩ := hspec
            dsimp only
            rw [TableEnv.tableWrite]
            cases hwrite : env.write with
            | false => exact .inl ⟨rfl, nofun⟩
            | true =>
                exact .inr ⟨slot, front, rest, hslots, hlan, rfl, rfl, hfree,
                  fun other hother => (hfront other hother).1, rfl, rfl⟩

theorem floodingModify_of_holds (hfilled : row.Filled)
    (hholds : ∃ slot ∈ slots isUni lanPort, row.Holds slot bridgePortIndex) (env : TableEnv) :
    (row.floodingModify env isUni lanPort bridgePortIndex).1 = row := by
  have ⟨slot, hslot, hat⟩ := hholds
  cases row.floodingModify_cases env isUni lanPort bridgePortIndex with
  | inl hsame => exact hsame.1
  | inr hplaced =>
      have ⟨free, _, _, _, _, _, _, _, _, hsearch, _⟩ := hplaced
      rw [search_eq_found hfilled hslot hat] at hsearch
      cases hsearch

end FloodingRow

/-! ## GEM ports -/

namespace InterworkingRow

variable {row : InterworkingRow} {portIndex : BitVec 8}

def Apart (row : InterworkingRow) : Prop :=
  Set.InjOn row.bridgePortIndex {i | i ≤ row.maxBridgeIndex}

theorem lists_iff : row.lists portIndex = true ↔
    ∃ i ≤ row.maxBridgeIndex, (row.bridgePortIndex i).setWidth 8 = portIndex := by
  rw [lists, List.any_eq_true]
  simp only [List.mem_finRange, true_and, Bool.and_eq_true, decide_eq_true_iff]

theorem setWidth_setWidth (h : portIndex < 128) :
    (portIndex.setWidth 7).setWidth 8 = portIndex := by
  refine BitVec.eq_of_toNat_eq ?_
  have hlt : portIndex.toNat < 128 := h
  simp only [BitVec.toNat_setWidth]
  omega

theorem lists_store (hlt : portIndex < 128) (maxBridgeIndex : Fin 8) :
    (row.store maxBridgeIndex portIndex).lists portIndex = true := by
  refine lists_iff.mpr ⟨maxBridgeIndex, le_refl _, ?_⟩
  rw [store]
  dsimp only
  rw [Function.update_self, setWidth_setWidth hlt]

theorem apart_store_zero (row : InterworkingRow) (portIndex : BitVec 8) :
    (row.store 0 portIndex).Apart := by
  intro i hi j hj _
  have hi' : i ≤ 0 := hi
  have hj' : j ≤ 0 := hj
  omega

theorem Apart.store (h : row.Apart) (hlt : portIndex < 128) (hnew : ¬ row.lists portIndex = true) :
    (row.store (row.maxBridgeIndex + 1) portIndex).Apart := by
  have hother : ∀ i ∈ {i | i ≤ row.maxBridgeIndex}, i ≠ row.maxBridgeIndex + 1 →
      row.bridgePortIndex i ≠ portIndex.setWidth 7 := by
    intro i hi _ heq
    refine hnew (lists_iff.mpr ⟨i, hi, ?_⟩)
    rw [heq, setWidth_setWidth hlt]
  refine (injOn_update_insert h hother).mono fun i hi => ?_
  have hle : i ≤ row.maxBridgeIndex + 1 := hi
  by_cases hsame : i = row.maxBridgeIndex + 1
  · exact .inl hsame
  · have hle' : i ≤ row.maxBridgeIndex := by omega
    exact .inr hle'

theorem lt_of_lists (h : row.lists portIndex = true) : portIndex < 128 := by
  have ⟨i, _, hport⟩ := lists_iff.mp h
  have hlt : (row.bridgePortIndex i).toNat < 128 := (row.bridgePortIndex i).isLt
  rw [← hport, BitVec.lt_def, BitVec.toNat_setWidth]
  exact lt_of_le_of_lt (Nat.mod_le _ _) hlt

def Takes (row : InterworkingRow) (interworkingOption : BitVec 16) (portIndex : BitVec 8) : Prop :=
  interworkingOption = 5 ∨ row.lists portIndex = true ∨
    portIndex < 128 ∧ (interworkingOption = 6 → row.valid = true → row.maxBridgeIndex ≠ 7)

variable {interworkingOption : BitVec 16} {gemPortType : BitVec 8}

theorem Takes.lt (h : row.Takes interworkingOption portIndex) (hbridged : interworkingOption ≠ 5) :
    portIndex < 128 := by
  cases h.resolve_left hbridged with
  | inl hlisted => exact lt_of_lists hlisted
  | inr hroom => exact hroom.1

/-- The list behind a modification. -/
theorem Apart.interwork (h : row.Apart) (htakes : row.Takes interworkingOption portIndex) :
    (row.interwork interworkingOption gemPortType portIndex).Apart := by
  rw [InterworkingRow.interwork]
  split
  · exact apart_store_zero row portIndex
  · split
    · exact h
    · rename_i hbridged
      change (row.addBridge portIndex).Apart
      rw [addBridge]
      split
      · exact apart_store_zero row portIndex
      · split
        · exact h
        · rename_i hlisted
          exact h.store (htakes.lt hbridged) hlisted

theorem lists_interwork (htakes : row.Takes interworkingOption portIndex)
    (hbridged : interworkingOption ≠ 5) :
    (row.interwork interworkingOption gemPortType portIndex).lists portIndex = true := by
  rw [interwork, if_neg hbridged]
  split
  · exact lists_store (htakes.lt hbridged) 0
  · change (row.addBridge portIndex).lists portIndex = true
    rw [addBridge]
    split
    · exact lists_store (htakes.lt hbridged) 0
    · split
      · assumption
      · exact lists_store (htakes.lt hbridged) _

/-- A modification done again. -/
theorem interwork_interwork (hlists : interworkingOption ≠ 5 →
    (row.interwork interworkingOption gemPortType portIndex).lists portIndex = true) :
    (row.interwork interworkingOption gemPortType portIndex).interwork interworkingOption
      gemPortType portIndex = row.interwork interworkingOption gemPortType portIndex := by
  by_cases hone : interworkingOption = 1
  · simp only [interwork, hone, if_true, store, Function.update_idem]
  · by_cases hlan : interworkingOption = 5
    · rw [hlan]
      rfl
    · have hvalid : (row.interwork interworkingOption gemPortType portIndex).valid = true := rfl
      have hadd : (row.interwork interworkingOption gemPortType portIndex).addBridge portIndex =
          row.interwork interworkingOption gemPortType portIndex := by
        rw [addBridge, hvalid, Bool.not_true, if_neg Bool.false_ne_true, if_pos (hlists hlan)]
      conv_lhs => rw [interwork, if_neg hone, if_neg hlan, hadd]
      rfl

/-- A modification of the entry: nothing is written, or the changed entry. -/
theorem interworkingModify_cases (row : InterworkingRow) (env : TableEnv)
    (interworkingOption : BitVec 16) (gemPortType portIndex : BitVec 8) :
    row.interworkingModify env interworkingOption gemPortType portIndex = (row, .error) ∨
      env.read = true ∧ env.write = true ∧
        (interworkingOption = 1 ∨ interworkingOption = 5 ∨ interworkingOption = 6) ∧
        row.interworkingModify env interworkingOption gemPortType portIndex =
          (row.interwork interworkingOption gemPortType portIndex, .success) := by
  rw [interworkingModify]
  by_cases hoption : interworkingOption = 1 ∨ interworkingOption = 5 ∨ interworkingOption = 6
  · rw [if_neg (not_not.mpr hoption), TableEnv.tableWrite]
    cases env.read with
    | false => exact .inl rfl
    | true =>
        cases env.write with
        | false => exact .inl rfl
        | true => exact .inr ⟨rfl, rfl, hoption, rfl⟩
  · rw [if_pos hoption]
    exact .inl rfl

end InterworkingRow

/-! ## Runs -/

namespace PortTables

variable {tables : PortTables}

/-- Each port has at most one slot of an entry. -/
structure Apart (tables : PortTables) : Prop where
  bridge : ∀ bridgeIndex, (tables.bridge bridgeIndex).Apart
  dsGemPort : ∀ gpix, (tables.dsGemPort gpix).Apart

/-- Behind a request its port has a slot, and only such as its type allows. -/
def Placed (tables : PortTables) : PortRequest → Prop
  | .flooding isUni lanPort bridgeIndex bridgePortIndex =>
      (∃ slot ∈ FloodingRow.slots isUni lanPort,
        (tables.bridge bridgeIndex).Holds slot bridgePortIndex) ∧
      ∀ slot, (tables.bridge bridgeIndex).Holds slot bridgePortIndex →
        slot ∈ FloodingRow.slots isUni lanPort
  | .bridgeInit bridgeIndex => ∀ slot, (tables.bridge bridgeIndex).enable slot = false
  | .interworking gpix interworkingOption _ portIndex =>
      interworkingOption ≠ 5 → (tables.dsGemPort gpix).lists portIndex = true
  | .loopOff gpix => (tables.dsGemPort gpix).valid = false

/-- There is a slot for the port of a request. -/
def HasRoom (tables : PortTables) : PortRequest → Prop
  | .flooding isUni lanPort bridgeIndex bridgePortIndex =>
      ∃ slot ∈ FloodingRow.slots isUni lanPort,
        (tables.bridge bridgeIndex).enable slot = false ∨
          (tables.bridge bridgeIndex).Holds slot bridgePortIndex
  | .interworking gpix interworkingOption _ portIndex =>
      interworkingOption = 6 → (tables.dsGemPort gpix).valid = true →
        (tables.dsGemPort gpix).lists portIndex = true ∨ (tables.dsGemPort gpix).maxBridgeIndex ≠ 7
  | _ => True

def step (tables : PortTables) (event : TableEnv × PortRequest) : Option PortTables :=
  some (tables.modify event.1 event.2).1

/-- What is expected of a modification. -/
structure ModifyRight (before : PortTables) (event : TableEnv × PortRequest)
    (after : PortTables) : Prop where
  apart : after.Apart
  placed : (before.modify event.1 event.2).2 = .success → after.Placed event.2
  repeated : (before.modify event.1 event.2).2 = .success →
    ∀ env, (after.modify env event.2).1 = after
  refused : (before.modify event.1 event.2).2 ≠ .success → after = before
  full : ¬ before.HasRoom event.2 → (before.modify event.1 event.2).2 ≠ .success

/-- A request whose port comes into a slot has one that seven bits hold and that is in no other
slot, and a list of bridges has room for it. -/
def RequestRight (tables : PortTables) (env : TableEnv) : PortRequest → Prop
  | .flooding isUni lanPort bridgeIndex bridgePortIndex =>
      ¬ (isUni ∧ 4 ≤ lanPort) → env.read = true → env.write = true →
      (∃ slot ∈ FloodingRow.slots isUni lanPort, (tables.bridge bridgeIndex).enable slot = false) →
      (∀ slot ∈ FloodingRow.slots isUni lanPort,
        ¬ (tables.bridge bridgeIndex).Holds slot bridgePortIndex) →
      bridgePortIndex < 128 ∧ ∀ slot, ¬ (tables.bridge bridgeIndex).Holds slot bridgePortIndex
  | .interworking gpix interworkingOption _ portIndex =>
      env.read = true → env.write = true →
      interworkingOption = 1 ∨ interworkingOption = 5 ∨ interworkingOption = 6 →
      (tables.dsGemPort gpix).Takes interworkingOption portIndex
  | _ => True

/-- The entries are apart, and the slots of the ANI are used one after the other. -/
structure Sound (tables : PortTables) : Prop where
  apart : tables.Apart
  filled : ∀ bridgeIndex, (tables.bridge bridgeIndex).Filled

theorem Sound.init : init.Sound where
  apart :=
    { bridge := fun _ _ hused => absurd hused Bool.false_ne_true
      dsGemPort := fun _ _ hi _ hj _ => (Fin.le_zero_iff.mp hi).trans (Fin.le_zero_iff.mp hj).symm }
  filled _ _ _ _ _ hused := absurd hused Bool.false_ne_true

theorem setBridge_of_eq {bridgeIndex : BitVec 16} {done : FloodingRow × OmciApiReturn}
    (h : done.1 = tables.bridge bridgeIndex) : (tables.setBridge bridgeIndex done).1 = tables := by
  rw [setBridge, h, Function.update_eq_self]

theorem setGemPort_of_eq {gpix : BitVec 16} {done : InterworkingRow × OmciApiReturn}
    (h : done.1 = tables.dsGemPort gpix) : (tables.setGemPort gpix done).1 = tables := by
  rw [setGemPort, h, Function.update_eq_self]

@[simp]
theorem setBridge_bridge (bridgeIndex : BitVec 16) (done : FloodingRow × OmciApiReturn) :
    (tables.setBridge bridgeIndex done).1.bridge bridgeIndex = done.1 :=
  Function.update_self ..

@[simp]
theorem setGemPort_dsGemPort (gpix : BitVec 16) (done : InterworkingRow × OmciApiReturn) :
    (tables.setGemPort gpix done).1.dsGemPort gpix = done.1 :=
  Function.update_self ..

theorem Sound.setBridge (h : tables.Sound) (bridgeIndex : BitVec 16)
    {done : FloodingRow × OmciApiReturn} (hapart : done.1.Apart) (hfilled : done.1.Filled) :
    (tables.setBridge bridgeIndex done).1.Sound := by
  have hrow : ∀ other, (tables.setBridge bridgeIndex done).1.bridge other =
      if other = bridgeIndex then done.1 else tables.bridge other :=
    fun other => Function.update_apply ..
  exact
    { apart :=
        { bridge := fun other => by
            rw [hrow]
            split
            · exact hapart
            · exact h.apart.bridge other
          dsGemPort := h.apart.dsGemPort }
      filled := fun other => by
        rw [hrow]
        split
        · exact hfilled
        · exact h.filled other }

theorem Sound.setGemPort (h : tables.Sound) (gpix : BitVec 16)
    {done : InterworkingRow × OmciApiReturn} (hapart : done.1.Apart) :
    (tables.setGemPort gpix done).1.Sound := by
  have hrow : ∀ other, (tables.setGemPort gpix done).1.dsGemPort other =
      if other = gpix then done.1 else tables.dsGemPort other :=
    fun other => Function.update_apply ..
  exact
    { apart :=
        { bridge := h.apart.bridge
          dsGemPort := fun other => by
            rw [hrow]
            split
            · exact hapart
            · exact h.apart.dsGemPort other }
      filled := h.filled }

/-- The request is carried out right, and leaves the tables sound. -/
def DoneRight (tables : PortTables) (env : TableEnv) (request : PortRequest) : Prop :=
  tables.ModifyRight (env, request) (tables.modify env request).1 ∧
    (tables.modify env request).1.Sound

/-- A request that fails and leaves the tables as they are is right. -/
theorem Sound.refused (h : tables.Sound) {env : TableEnv} {request : PortRequest}
    (hafter : (tables.modify env request).1 = tables)
    (hanswer : (tables.modify env request).2 = .error) : tables.DoneRight env request := by
  have hrefused : (tables.modify env request).2 ≠ .success := by
    rw [hanswer]
    decide
  rw [DoneRight, hafter]
  exact
    ⟨{ apart := h.apart
       placed := fun hsuccess => absurd hsuccess hrefused
       repeated := fun hsuccess => absurd hsuccess hrefused
       refused := fun _ => rfl
       full := fun _ => hrefused }, h⟩

theorem Sound.written {env : TableEnv} {request : PortRequest}
    (hsound : (tables.modify env request).1.Sound)
    (hanswer : (tables.modify env request).2 = .success)
    (hplaced : (tables.modify env request).1.Placed request)
    (hagain : ∀ env', ((tables.modify env request).1.modify env' request).1 =
      (tables.modify env request).1) (hroom : tables.HasRoom request) :
    tables.DoneRight env request :=
  ⟨{ apart := hsound.apart
     placed := fun _ => hplaced
     repeated := fun _ => hagain
     refused := fun hrefused => absurd hanswer hrefused
     full := fun hfull => absurd hroom hfull }, hsound⟩

/-- A flooding modification is right if its port fits and has a slot left. -/
theorem Sound.flooding (h : tables.Sound) {env : TableEnv} {isUni : Bool} {lanPort : BitVec 8}
    {bridgeIndex bridgePortIndex : BitVec 16}
    (hright : tables.RequestRight env (.flooding isUni lanPort bridgeIndex bridgePortIndex)) :
    tables.DoneRight env (.flooding isUni lanPort bridgeIndex bridgePortIndex) := by
  set request : PortRequest := .flooding isUni lanPort bridgeIndex bridgePortIndex
  have hagain : ∀ after : PortTables, after.Sound → after.Placed request →
      ∀ env, (after.modify env request).1 = after :=
    fun after hafter hplaced env => setBridge_of_eq <|
      FloodingRow.floodingModify_of_holds (hafter.filled bridgeIndex) hplaced.1 env
  cases (tables.bridge bridgeIndex).floodingModify_cases env isUni lanPort bridgePortIndex with
  | inl hsame =>
      have hafter : (tables.modify env request).1 = tables := setBridge_of_eq hsame.1
      have hplaced : (tables.modify env request).2 = .success → tables.Placed request := by
        intro hanswer
        have ⟨slot, hslot, hat⟩ := hsame.2 hanswer
        refine ⟨⟨slot, hslot, hat⟩, fun other hother => ?_⟩
        have hport := FloodingRow.setWidth_inj (hother.2.trans hat.2.symm)
        exact (h.apart.bridge bridgeIndex hother.1 hat.1 hport) ▸ hslot
      rw [DoneRight, hafter]
      exact
        ⟨{ apart := h.apart
           placed := hplaced
           repeated := fun hanswer => hagain tables h (hplaced hanswer)
           refused := fun _ => rfl
           full := fun hfull hanswer =>
            have ⟨slot, hslot, hat⟩ := hsame.2 hanswer
            hfull ⟨slot, hslot, .inr hat⟩ }, h⟩
  | inr hplaced =>
      have ⟨slot, front, rest, hslots, hlan, hread, hwrite, hfree, hfront, hsearch, hdone⟩ := hplaced
      have hslot : slot ∈ FloodingRow.slots isUni lanPort := by
        rw [hslots]
        exact List.mem_append_right _ List.mem_cons_self
      have hnone : ∀ other ∈ FloodingRow.slots isUni lanPort,
          ¬ (tables.bridge bridgeIndex).Holds other bridgePortIndex := by
        intro other hother hat
        rw [FloodingRow.search_eq_found (h.filled bridgeIndex) hother hat] at hsearch
        cases hsearch
      have ⟨hlt, hnew⟩ := hright hlan hread hwrite ⟨slot, hslot, hfree⟩ hnone
      have hrow : (tables.modify env request).1.bridge bridgeIndex =
          (tables.bridge bridgeIndex).place bridgePortIndex slot :=
        (setBridge_bridge ..).trans (congrArg Prod.fst hdone)
      have hanswer : (tables.modify env request).2 = .success := congrArg Prod.snd hdone
      have hsound : (tables.modify env request).1.Sound := by
        refine h.setBridge bridgeIndex ?_ ?_
        · rw [hdone]
          exact (h.apart.bridge bridgeIndex).place hlt hnew
        · rw [hdone]
          exact (h.filled bridgeIndex).place hslots hlan hfront
      have hat : (tables.modify env request).1.Placed request := by
        rw [Placed]
        dsimp only [request]
        rw [hrow]
        refine ⟨⟨slot, hslot, (FloodingRow.holds_place hlt).mpr (by rw [if_pos rfl])⟩,
          fun other hother => ?_⟩
        have hother' := (FloodingRow.holds_place hlt).mp hother
        split at hother'
        · rename_i hsame
          exact hsame ▸ hslot
        · exact absurd hother' (hnew other)
      exact Sound.written hsound hanswer hat (hagain _ hsound hat) ⟨slot, hslot, .inl hfree⟩

/-- An interworking modification is right if the GEM port takes the bridge port. -/
theorem Sound.interworking (h : tables.Sound) {env : TableEnv} {gpix interworkingOption : BitVec 16}
    {gemPortType portIndex : BitVec 8}
    (hright : tables.RequestRight env
      (.interworking gpix interworkingOption gemPortType portIndex)) :
    tables.DoneRight env (.interworking gpix interworkingOption gemPortType portIndex) := by
  set request : PortRequest := .interworking gpix interworkingOption gemPortType portIndex
  cases (tables.dsGemPort gpix).interworkingModify_cases env interworkingOption gemPortType
    portIndex with
  | inl hrefused =>
      exact h.refused (setGemPort_of_eq (congrArg Prod.fst hrefused)) (congrArg Prod.snd hrefused)
  | inr hwritten =>
      have ⟨hread, hwrite, hoption, hdone⟩ := hwritten
      have htakes := hright hread hwrite hoption
      have hanswer : (tables.modify env request).2 = .success := congrArg Prod.snd hdone
      have hrow : (tables.modify env request).1.dsGemPort gpix =
          (tables.dsGemPort gpix).interwork interworkingOption gemPortType portIndex :=
        (setGemPort_dsGemPort ..).trans (congrArg Prod.fst hdone)
      have hsound : (tables.modify env request).1.Sound := by
        refine h.setGemPort gpix ?_
        rw [hdone]
        exact (h.apart.dsGemPort gpix).interwork htakes
      have hlists : interworkingOption ≠ 5 →
          ((tables.dsGemPort gpix).interwork interworkingOption gemPortType portIndex).lists
            portIndex = true := InterworkingRow.lists_interwork htakes
      have hroom : tables.HasRoom request := by
        intro hbridged hvalid
        have hnotLan : interworkingOption ≠ 5 := by
          rw [hbridged]
          decide
        exact (htakes.resolve_left hnotLan).imp_right fun hroom => hroom.2 hbridged hvalid
      have hagain : ∀ env', ((tables.modify env request).1.modify env' request).1 =
          (tables.modify env request).1 := by
        intro env'
        refine setGemPort_of_eq ?_
        rw [hrow]
        cases InterworkingRow.interworkingModify_cases _ env' interworkingOption gemPortType
          portIndex with
        | inl hsame => rw [hsame]
        | inr hsame =>
            rw [hsame.2.2.2]
            exact InterworkingRow.interwork_interwork hlists
      exact Sound.written hsound hanswer (fun hnotLan => hrow ▸ hlists hnotLan) hagain hroom

/-- Initialising an entry is right: unless it is refused, the entry has no ports after it. -/
theorem Sound.bridgeInit (h : tables.Sound) (env : TableEnv) (bridgeIndex : BitVec 16) :
    tables.DoneRight env (.bridgeInit bridgeIndex) := by
  set request : PortRequest := .bridgeInit bridgeIndex
  let cleared : FloodingRow := ⟨fun _ => false, fun _ => 127⟩
  cases env.write_cases (tables.bridge bridgeIndex) cleared with
  | inl hsame =>
      exact h.refused (setBridge_of_eq (congrArg Prod.fst hsame)) (congrArg Prod.snd hsame)
  | inr hdone =>
      have hrow : (tables.modify env request).1.bridge bridgeIndex = cleared :=
        (setBridge_bridge ..).trans (congrArg Prod.fst hdone)
      have hsound : (tables.modify env request).1.Sound := by
        refine h.setBridge bridgeIndex ?_ ?_
        · rw [FloodingRow.bridgeInit, hdone]
          exact fun _ hused => absurd hused Bool.false_ne_true
        · rw [FloodingRow.bridgeInit, hdone]
          exact fun _ _ _ _ hused => absurd hused Bool.false_ne_true
      have hplaced : (tables.modify env request).1.Placed request := by
        intro slot
        rw [hrow]
      have hagain : ∀ env', ((tables.modify env request).1.modify env' request).1 =
          (tables.modify env request).1 := by
        intro env'
        refine setBridge_of_eq ?_
        rw [hrow, FloodingRow.bridgeInit]
        cases env'.write_cases cleared cleared with
        | inl hsame => rw [hsame]
        | inr hsame => rw [hsame]
      exact Sound.written hsound (congrArg Prod.snd hdone) hplaced hagain trivial

/-- Switching the loopback off is right: unless it is refused, it leaves the GEM port not valid. -/
theorem Sound.loopOff (h : tables.Sound) (env : TableEnv) (gpix : BitVec 16) :
    tables.DoneRight env (.loopOff gpix) := by
  set request : PortRequest := .loopOff gpix
  let cleared : InterworkingRow :=
    { tables.dsGemPort gpix with gemLoopbackEnable := false, valid := false }
  cases env.write_cases (tables.dsGemPort gpix) cleared with
  | inl hsame =>
      exact h.refused (setGemPort_of_eq (congrArg Prod.fst hsame)) (congrArg Prod.snd hsame)
  | inr hdone =>
      have hrow : (tables.modify env request).1.dsGemPort gpix = cleared :=
        (setGemPort_dsGemPort ..).trans (congrArg Prod.fst hdone)
      have hsound : (tables.modify env request).1.Sound := by
        refine h.setGemPort gpix ?_
        rw [InterworkingRow.loopOff, hdone]
        exact h.apart.dsGemPort gpix
      have hplaced : (tables.modify env request).1.Placed request := by
        change ((tables.modify env request).1.dsGemPort gpix).valid = false
        rw [hrow]
      have hagain : ∀ env', ((tables.modify env request).1.modify env' request).1 =
          (tables.modify env request).1 := by
        intro env'
        refine setGemPort_of_eq ?_
        rw [hrow, InterworkingRow.loopOff]
        cases env'.write_cases cleared cleared with
        | inl hsame => exact congrArg Prod.fst hsame
        | inr hsame => exact congrArg Prod.fst hsame
      exact Sound.written hsound (congrArg Prod.snd hdone) hplaced hagain trivial

end PortTables

/-- In a run whose ports fit into the fields and the slots, each port has at most one slot of an
entry, and every modification is right. -/
theorem run_modifyRight (run : List (TableEnv × PortRequest))
    (hright : Along PortTables.step (fun before event _ => before.RequestRight event.1 event.2)
      .init run) : Along PortTables.step PortTables.ModifyRight .init run := by
  have hstep : ∀ before event after, PortTables.Sound before →
      before.RequestRight event.1 event.2 → before.step event = some after →
      before.ModifyRight event after ∧ after.Sound := by
    intro before event after hbefore hrequest hafter
    cases hafter
    match event, hrequest with
    | (env, .flooding isUni lanPort bridgeIndex bridgePortIndex), hport =>
        exact hbefore.flooding hport
    | (env, .bridgeInit bridgeIndex), _ => exact hbefore.bridgeInit env bridgeIndex
    | (env, .interworking gpix interworkingOption gemPortType portIndex), htakes =>
        exact hbefore.interworking htakes
    | (env, .loopOff gpix), _ => exact hbefore.loopOff env gpix
  exact Along.of_guard hstep PortTables.Sound.init hright

def answering : TableEnv := ⟨true, true⟩

def bridgeRun : List (TableEnv × PortRequest) :=
  [(answering, .flooding true 0 0 5), (answering, .flooding false 0xFF 0 6),
    (answering, .interworking 3 6 0 6)]

theorem run_modifyRight_bridge : Along PortTables.step PortTables.ModifyRight .init bridgeRun := by
  refine run_modifyRight bridgeRun ⟨?_, ?_, ?_, trivial⟩
  · exact fun _ _ _ _ _ => ⟨by decide, by decide⟩
  · exact fun _ _ _ _ _ => ⟨by decide, by decide⟩
  · exact fun _ _ _ => .inr (.inr ⟨by decide, fun _ => by decide⟩)

def ninePorts : List (TableEnv × PortRequest) :=
  (List.range 9).map fun port => (answering, .interworking 3 6 0 (BitVec.ofNat 8 port))

/-- The ninth bridge port takes the place of the others. -/
theorem not_modifyRight_ninth : ¬ Along PortTables.step PortTables.ModifyRight .init ninePorts := by
  intro hrun
  have hninth := hrun.2.2.2.2.2.2.2.2.1
  refine hninth.full ?_ rfl
  intro hroom
  exact absurd (hroom rfl rfl) (by decide)

end FalconGpon.Api
