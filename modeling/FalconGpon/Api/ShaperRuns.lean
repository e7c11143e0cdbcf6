/-
# Runs of traffic descriptor requests

A shaper is to have the largest rates of the descriptors that are attached to it, or the defaults.
Updates and attachments keep this. A descriptor that is taken off leaves the defaults in each of
its shapers, whoever else is attached, and the detaching functions report an error each time; runs
without either are right (`run_requestRight`).
-/

import FalconGpon.Api.TrafficDescriptor
import FalconGpon.Lib.Transition

namespace FalconGpon.Api

open FalconGpon.Lib

/-! ## Blocks -/

namespace Blocks

variable {blocks : Blocks} {index other : BitVec 8}

theorem mem_indices :
    index ∈ blocks.indices ↔ ∃ i, (blocks i).enable = true ∧ (blocks i).index = index := by
  rw [indices, List.mem_map]
  simp only [List.mem_filter, List.mem_finRange, true_and]

theorem indices_disable (blocks : Blocks) : blocks.disable.indices = [] := by
  rw [List.eq_nil_iff_forall_not_mem]
  intro index hmem
  have ⟨i, henable, _⟩ := mem_indices.mp hmem
  exact absurd henable Bool.false_ne_true

/-- An attachment takes a free block, if there is one. -/
theorem attach_spec (blocks : Blocks) (index : BitVec 8) :
    if ∃ i, (blocks i).enable = false then (blocks.attach index).2 = .success ∧
        ∀ other, other ∈ (blocks.attach index).1.indices ↔
          other = index ∨ other ∈ blocks.indices
    else blocks.attach index = (blocks, .error) := by
  rw [attach]
  cases hfind : (List.finRange 32).find? fun i => !(blocks i).enable with
  | none =>
      have hused := List.find?_eq_none.mp hfind
      rw [if_neg]
      intro hfree
      have ⟨i, hi⟩ := hfree
      exact hused i (List.mem_finRange i) (by rw [hi]; rfl)
  | some i =>
      have hfree : (blocks i).enable = false := by
        simpa using List.find?_some hfind
      rw [if_pos ⟨i, hfree⟩]
      refine ⟨rfl, fun other => ?_⟩
      dsimp only
      rw [mem_indices, mem_indices]
      constructor
      · intro hmem
        have ⟨j, henable, hindex⟩ := hmem
        by_cases hj : j = i
        · rw [hj, Function.update_self] at hindex
          exact .inl hindex.symm
        · rw [Function.update_of_ne hj] at henable hindex
          exact .inr ⟨j, henable, hindex⟩
      · intro hmem
        cases hmem with
        | inl hnew =>
            refine ⟨i, ?_, ?_⟩
            · rw [Function.update_self]
            · rw [Function.update_self, hnew]
        | inr hold =>
            have ⟨j, henable, hindex⟩ := hold
            have hj : j ≠ i := by
              intro heq
              rw [heq, hfree] at henable
              cases henable
            refine ⟨j, ?_, ?_⟩
            · rwa [Function.update_of_ne hj]
            · rwa [Function.update_of_ne hj]

end Blocks

/-! ## Programming -/

namespace Shaping

variable {env : ShaperEnv} {s : Shaping} {tdIdx k : Fin 64} {shaper : BitVec 8}

def Programmed (s : Shaping) : Prop :=
  Provisioned s.attached (fun k => (s.td k).params.rates) tbsDefault fun shaper =>
    (s.cfg shaper).rates

theorem mem_attached : shaper ∈ s.attached tdIdx ↔ shaper ∈ (s.td tdIdx).shaper.indices := by
  rw [attached, List.mem_toFinset]

theorem maxRates_eq (s : Shaping) (shaper : BitVec 8) :
    s.maxRates shaper = (sharers s.attached shaper).sup fun k => (s.td k).params.rates := by
  rw [maxRates, foldl_sup_if s.attached (fun k => (s.td k).params.rates), List.toFinset_finRange]
  exact bot_sup_eq _

theorem program_cfg (env : ShaperEnv) (s : Shaping) (cfg : BitVec 8 → ShaperCfg)
    (shapers : List (BitVec 8)) (shaper : BitVec 8) : (s.program env cfg shapers).cfg shaper =
      if shaper ∈ shapers ∧ env shaper = true then cfg shaper else s.cfg shaper :=
  foldl_update_if env cfg s.cfg shapers shaper

theorem setTd_td (s : Shaping) (td : TrafficDescriptor) :
    (s.setTd tdIdx td).td k = if k = tdIdx then td else s.td k :=
  Function.update_apply ..

/-- The shapers of the descriptors behind a request. -/
def attachedBehind (attached : Fin 64 → Finset (BitVec 8)) (answer : OmciApiReturn) :
    TdRequest → Fin 64 → Finset (BitVec 8)
  | .shaperAdd tdIdx shaperIdx =>
      if answer = .success then Function.update attached tdIdx (insert shaperIdx (attached tdIdx))
      else attached
  | .destroy tdIdx => Function.update attached tdIdx ∅
  | .shaperDelete tdIdx => Function.update attached tdIdx ∅
  | _ => attached

/-- What is taken off is there. -/
def Present (s : Shaping) : TdRequest → Prop
  | .destroy _ => True
  | .shaperDelete tdIdx => (s.attached tdIdx).Nonempty
  | .meterDetach tdIdx meterIdx => meterIdx ∈ (s.td tdIdx).meter.indices
  | _ => False

/-- A descriptor is taken off one shaper, and nothing changes for the others. -/
def DetachesOne (before after : Shaping) : Prop :=
  ∃ shaper, ∀ other, other ≠ shaper →
    (∀ k, other ∈ after.attached k ↔ other ∈ before.attached k) ∧
      after.cfg other = before.cfg other

/-- What is expected of a request. -/
structure RequestRight (before : Shaping) (event : ShaperEnv × TdRequest) (after : Shaping) :
    Prop where
  programmed : after.Programmed
  attached : after.attached =
    attachedBehind before.attached (before.request event.1 event.2).2 event.2
  detached : ∀ tdIdx, event.2 = .shaperDelete tdIdx → before.DetachesOne after
  answer : before.Present event.2 → (before.request event.1 event.2).2 = .success

/-- The driver takes the configurations, a descriptor that is destroyed shares no shaper, and what
is detached is not attached. -/
def RequestAllowed (s : Shaping) (env : ShaperEnv) : TdRequest → Prop
  | .update tdIdx _ => ∀ shaper ∈ s.attached tdIdx, env shaper = true
  | .destroy tdIdx => ∀ shaper ∈ s.attached tdIdx,
      env shaper = true ∧ ∀ k, k ≠ tdIdx → shaper ∉ s.attached k
  | .shaperAdd tdIdx shaperIdx =>
      (∃ i, ((s.td tdIdx).shaper i).enable = false) → env shaperIdx = true
  | .shaperDelete tdIdx => s.attached tdIdx = ∅
  | .meterAttach _ _ => True
  | .meterDetach tdIdx meterIdx => meterIdx ∉ (s.td tdIdx).meter.indices

def step (s : Shaping) (event : ShaperEnv × TdRequest) : Option Shaping :=
  some (s.request event.1 event.2).1

theorem shaperCfg_rates (h : shaper ∈ s.attached tdIdx) : (s.shaperCfg shaper).rates =
      provision s.attached (fun k => (s.td k).params.rates) tbsDefault shaper :=
  (s.maxRates_eq shaper).trans (provision_eq_sup h).symm

/-- The shapers of a descriptor are programmed with what is needed of them, and nothing else
changes. -/
theorem Programmed.program (h : s.Programmed) {s' : Shaping} {cfg : BitVec 8 → ShaperCfg}
    {shapers : List (BitVec 8)} (hcfg : s'.cfg = s.cfg)
    (hset : ∀ shaper ∈ shapers, env shaper = true ∧ (cfg shaper).rates =
      provision s'.attached (fun k => (s'.td k).params.rates) tbsDefault shaper)
    (hleft : ∀ shaper, shaper ∉ shapers → (∀ k, shaper ∈ s'.attached k ↔ shaper ∈ s.attached k) ∧
      ∀ k, shaper ∈ s.attached k → (s'.td k).params.rates = (s.td k).params.rates) :
    (s'.program env cfg shapers).Programmed := by
  refine h.of_frame fun shaper => ?_
  rw [program_cfg]
  by_cases hmem : shaper ∈ shapers
  · have ⟨henv, hrates⟩ := hset shaper hmem
    rw [if_pos ⟨hmem, henv⟩]
    exact .inl hrates
  · rw [if_neg fun hboth => hmem hboth.1, hcfg]
    exact .inr ⟨rfl, hleft shaper hmem⟩

theorem attached_setTd (td : TrafficDescriptor) :
    (s.setTd tdIdx td).attached = Function.update s.attached tdIdx td.shaper.indices.toFinset := by
  funext k
  rw [attached, setTd_td, Function.update_apply]
  split
  · rfl
  · rfl

variable {td : TrafficDescriptor}

theorem attached_setTd_same (h : td.shaper = (s.td tdIdx).shaper) :
    (s.setTd tdIdx td).attached = s.attached := by
  rw [attached_setTd, h]
  exact Function.update_eq_self tdIdx s.attached

/-- New attributes, with the shapers of the descriptor. -/
theorem Programmed.update (h : s.Programmed) {params : TdParams}
    (henv : ∀ shaper ∈ s.attached tdIdx, env shaper = true) :
    (s.update env tdIdx params).1.Programmed := by
  let s' := s.setTd tdIdx { s.td tdIdx with params := params }
  have hattached : s'.attached = s.attached := attached_setTd_same rfl
  have hindices : (s'.td tdIdx).shaper.indices = (s.td tdIdx).shaper.indices := by
    rw [setTd_td, if_pos rfl]
  refine h.program rfl (fun shaper hmem => ?_) (fun shaper hother => ?_)
  · rw [hindices, ← mem_attached] at hmem
    exact ⟨henv shaper hmem, shaperCfg_rates (hattached ▸ hmem)⟩
  · refine ⟨fun k => hattached ▸ Iff.rfl, fun k hk => ?_⟩
    have hne : k ≠ tdIdx := by
      intro heq
      rw [hindices, ← mem_attached] at hother
      exact hother (heq ▸ hk)
    rw [setTd_td, if_neg hne]

/-- A descriptor that shares no shaper is taken off. -/
theorem Programmed.clean (h : s.Programmed) (halone : ∀ shaper ∈ s.attached tdIdx,
      env shaper = true ∧ ∀ k, k ≠ tdIdx → shaper ∉ s.attached k)
    (hparams : td.params = (s.td tdIdx).params) (hshaper : td.shaper.indices = []) :
    ((s.shaperClean env tdIdx).setTd tdIdx td).Programmed := by
  let s' := s.setTd tdIdx td
  have hattached : ∀ k shaper, shaper ∈ s'.attached k ↔ k ≠ tdIdx ∧ shaper ∈ s.attached k := by
    intro k shaper
    rw [attached_setTd, hshaper, List.toFinset_nil, Function.update_apply]
    split
    · rename_i hk
      exact iff_of_false (Finset.notMem_empty _) fun hboth => hboth.1 hk
    · rename_i hk
      exact (and_iff_right hk).symm
  change (s'.program env (fun _ => ⟨false, 0, tbsDefault⟩)
    (s.td tdIdx).shaper.indices).Programmed
  refine h.program rfl (fun shaper hmem => ?_) (fun shaper hother => ?_)
  · have ⟨henv, hnone⟩ := halone shaper (mem_attached.mpr hmem)
    refine ⟨henv, (provision_eq_idle fun k hk => ?_).symm⟩
    have hboth := (hattached k shaper).mp hk
    exact hnone k hboth.1 hboth.2
  · refine ⟨fun k => ?_, fun k hk => ?_⟩
    · rw [hattached]
      refine and_iff_right_of_imp fun hk heq => hother ?_
      exact mem_attached.mp (heq ▸ hk)
    · rw [setTd_td]
      split
      · rename_i heq
        rw [hparams, heq]
      · rfl

/-- A descriptor is attached to one more shaper. -/
theorem Programmed.attach (h : s.Programmed) {blocks : Blocks}
    (hblocks : ∀ other, other ∈ blocks.indices ↔
      other = shaper ∨ other ∈ (s.td tdIdx).shaper.indices)
    (henv : env shaper = true) :
    let s' := s.setTd tdIdx { s.td tdIdx with shaper := blocks }
    (s'.program env s'.shaperCfg [shaper]).Programmed ∧
      s'.attached = Function.update s.attached tdIdx (insert shaper (s.attached tdIdx)) := by
  intro s'
  have hattached : s'.attached =
      Function.update s.attached tdIdx (insert shaper (s.attached tdIdx)) := by
    rw [attached_setTd]
    refine congrArg _ (Finset.ext fun other => ?_)
    rw [List.mem_toFinset, hblocks, Finset.mem_insert, mem_attached]
  have hmem : shaper ∈ s'.attached tdIdx := by
    rw [hattached, Function.update_self]
    exact Finset.mem_insert_self _ _
  refine ⟨h.program rfl (fun other hother => ?_) (fun other hother => ?_), hattached⟩
  · rw [List.mem_singleton.mp hother]
    exact ⟨henv, shaperCfg_rates hmem⟩
  · rw [List.mem_singleton] at hother
    refine ⟨fun k => ?_, fun k _ => ?_⟩
    · rw [hattached, Function.update_apply]
      split
      · rename_i hk
        rw [hk, Finset.mem_insert, or_iff_right hother]
      · rfl
    · rw [setTd_td]
      split
      · rename_i hk
        rw [hk]
      · rfl

theorem Programmed.init : init.Programmed := by
  intro shaper
  refine (provision_eq_idle fun k hk => ?_).symm
  have ⟨i, henable, _⟩ := Blocks.mem_indices.mp (mem_attached.mp hk)
  exact absurd henable Bool.false_ne_true

theorem Programmed.same (h : s.Programmed)
    (hparams : td.params = (s.td tdIdx).params) (hshaper : td.shaper = (s.td tdIdx).shaper) :
    (s.setTd tdIdx td).Programmed := by
  refine h.of_frame fun shaper => .inr ⟨rfl, fun k => ?_, fun k _ => ?_⟩
  · rw [attached_setTd_same hshaper]
  · rw [setTd_td]
    split
    · rename_i hk
      rw [hparams, hk]
    · rfl

theorem attached_disable (hshaper : td.shaper.indices = []) :
    ((s.shaperClean env tdIdx).setTd tdIdx td).attached = Function.update s.attached tdIdx ∅ := by
  rw [attached_setTd, hshaper]
  rfl

theorem shaperClean_of_empty (h : s.attached tdIdx = ∅) :
    (s.shaperClean env tdIdx).cfg = s.cfg := by
  funext shaper
  rw [shaperClean, program_cfg, if_neg]
  intro hmem
  exact Finset.notMem_empty shaper (h ▸ mem_attached.mpr hmem.1)

/-- An attachment, if there is a free block. -/
theorem Programmed.shaperAdd (h : s.Programmed)
    (hallowed : s.RequestAllowed env (.shaperAdd tdIdx shaper)) :
    s.RequestRight (env, .shaperAdd tdIdx shaper) (s.request env (.shaperAdd tdIdx shaper)).1 := by
  have hattach := (s.td tdIdx).shaper.attach_spec shaper
  rw [request, Shaping.shaperAdd]
  by_cases hfree : ∃ i, ((s.td tdIdx).shaper i).enable = false
  · rw [if_pos hfree] at hattach
    have henv := hallowed hfree
    have hdone := h.attach hattach.2 henv
    have hanswer : (s.request env (.shaperAdd tdIdx shaper)).2 = .success := by
      rw [request, Shaping.shaperAdd, if_pos hattach.1, if_pos henv]
    rw [if_pos hattach.1]
    exact
      { programmed := hdone.1
        attached := by
          rw [hanswer, attachedBehind, if_pos rfl]
          exact hdone.2
        detached := nofun
        answer := nofun }
  · rw [if_neg hfree] at hattach
    have hrefused : ¬ ((s.td tdIdx).shaper.attach shaper).2 = .success := by
      rw [hattach]
      exact nofun
    have hanswer : (s.request env (.shaperAdd tdIdx shaper)).2 = .error := by
      rw [request, Shaping.shaperAdd, if_neg hrefused]
    rw [if_neg hrefused]
    exact
      { programmed := h
        attached := by
          rw [hanswer, attachedBehind, if_neg (by decide)]
        detached := nofun
        answer := nofun }

/-- A request. -/
theorem Programmed.request (h : s.Programmed) {request : TdRequest}
    (hallowed : s.RequestAllowed env request) :
    s.RequestRight (env, request) (s.request env request).1 := by
  cases request with
  | update tdIdx params =>
      exact
        { programmed := h.update hallowed
          attached := attached_setTd_same rfl
          detached := nofun
          answer := nofun }
  | destroy tdIdx =>
      exact
        { programmed := h.clean hallowed rfl (Blocks.indices_disable _)
          attached := attached_disable (Blocks.indices_disable _)
          detached := nofun
          answer := fun _ => rfl }
  | shaperAdd tdIdx shaperIdx => exact h.shaperAdd hallowed
  | shaperDelete tdIdx =>
      have hempty : s.attached tdIdx = ∅ := hallowed
      have hattached : (s.request env (.shaperDelete tdIdx)).1.attached =
          Function.update s.attached tdIdx ∅ := attached_disable (Blocks.indices_disable _)
      have hsame : Function.update s.attached tdIdx ∅ = s.attached := by
        rw [← hempty]
        exact Function.update_eq_self tdIdx s.attached
      have hcfg : (s.request env (.shaperDelete tdIdx)).1.cfg = s.cfg :=
        shaperClean_of_empty hempty
      have hnone : ∀ shaper ∈ s.attached tdIdx,
          env shaper = true ∧ ∀ k, k ≠ tdIdx → shaper ∉ s.attached k := by
        intro shaper hmem
        exact absurd (hempty ▸ hmem) (Finset.notMem_empty shaper)
      exact
        { programmed := h.clean hnone rfl (Blocks.indices_disable _)
          attached := hattached
          detached := fun _ _ => ⟨0, fun other _ =>
            ⟨fun k => by rw [hattached, hsame], congrFun hcfg other⟩⟩
          answer := fun hpresent => absurd hempty hpresent.ne_empty }
  | meterAttach tdIdx meterIdx =>
      exact
        { programmed := h.same rfl rfl
          attached := attached_setTd_same rfl
          detached := nofun
          answer := nofun }
  | meterDetach tdIdx meterIdx =>
      exact
        { programmed := h.same rfl rfl
          attached := attached_setTd_same rfl
          detached := nofun
          answer := fun hpresent => absurd hpresent hallowed }

end Shaping

/-! ## Runs -/

/-- Runs in which nothing that is attached is detached, and in which no shared shaper loses a
descriptor, have every shaper programmed for its descriptors. -/
theorem run_requestRight (run : List (ShaperEnv × TdRequest))
    (hallowed : Along Shaping.step (fun before event _ => before.RequestAllowed event.1 event.2)
      .init run) : Along Shaping.step Shaping.RequestRight .init run := by
  have hstep : ∀ before event after, Shaping.Programmed before →
      before.RequestAllowed event.1 event.2 → before.step event = some after →
      before.RequestRight event after ∧ after.Programmed := by
    intro before event after hbefore hevent hafter
    cases hafter
    have hright := hbefore.request hevent
    exact ⟨hright, hright.programmed⟩
  exact Along.of_guard hstep Shaping.Programmed.init hallowed

def taking : ShaperEnv := fun _ => true

def tdParams (cir pir : Nat) : TdParams :=
  ⟨⟨cir, pir, 1000, 2000⟩, 0, 0, 0, 1⟩

def sharedRun : List (ShaperEnv × TdRequest) :=
  [(taking, .update 0 (tdParams 3000 9000)), (taking, .update 1 (tdParams 5000 7000)),
    (taking, .shaperAdd 0 4), (taking, .shaperAdd 1 4), (taking, .update 1 (tdParams 2000 8000))]

theorem run_requestRight_shared : Along Shaping.step Shaping.RequestRight .init sharedRun :=
  run_requestRight sharedRun
    ⟨fun _ _ => rfl, fun _ _ => rfl, fun _ => rfl, fun _ => rfl, fun _ _ => rfl, trivial⟩

def detachRun : List (ShaperEnv × TdRequest) :=
  [(taking, .shaperAdd 0 4), (taking, .shaperDelete 0)]

/-- The detaching function reports an error. -/
theorem not_requestRight_detach : ¬ Along Shaping.step Shaping.RequestRight .init detachRun := by
  intro hrun
  have hanswer := hrun.2.1.answer ⟨4, by decide⟩
  cases hanswer

end FalconGpon.Api
