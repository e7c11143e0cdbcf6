/-
# What creating and deleting keep

`Kept` collects what every call of `mib_me_create` and `mib_me_delete` keeps,
whether it succeeds or fails and however deep it nests: only the lists of the
class and of its slaves change, the lists stay strictly ascending and correctly
counted (`MibInv`), and, as long as no request for a PM list entry is denied
(`PmGranted`), they hold live records only (`AllLive`).

`MeCreated` lists the ways `mib_me_create` can end.
-/

import FalconGpon.Omci.Mib
import Mathlib.Algebra.BigOperators.Fin

namespace FalconGpon.Omci

open FalconGpon.Lib

variable {ω : Type}

namespace Context

/-- The lists, the counter and the PM list are the same. -/
structure SameMib (ctx ctx' : Context ω) : Prop where
  meList : ctx'.meList = ctx.meList
  meCount : ctx'.meCount = ctx.meCount
  pmList : ctx'.pmList = ctx.pmList

theorem SameMib.refl (ctx : Context ω) : ctx.SameMib ctx := ⟨rfl, rfl, rfl⟩

theorem SameMib.trans {first second third : Context ω} (h : first.SameMib second)
    (h' : second.SameMib third) : first.SameMib third :=
  ⟨h'.meList.trans h.meList, h'.meCount.trans h.meCount, h'.pmList.trans h.pmList⟩

def PmGranted (ctx : Context ω) : Prop :=
  ∀ n, ctx.supply .pmListEntry n = true

def AllLive (ctx : Context ω) : Prop :=
  ∀ id, ∀ entry ∈ ctx.meList id, entry.live = true

/-- The representation invariant of the MIB. -/
structure MibInv (table : ClassTable ω) (ctx : Context ω) : Prop where
  ascending : ∀ id, Ascending MeEntry.key (ctx.meList id)
  known : ∀ id, id ∉ table.ids → ctx.meList id = []
  count : ctx.meCount = ∑ id ∈ table.ids.toFinset, (ctx.meList id).length

variable {ctx ctx' : Context ω}

theorem SameMib.mibInv {table : ClassTable ω} (h : ctx.SameMib ctx')
    (hinv : MibInv table ctx) : MibInv table ctx' := by
  constructor
  · rw [h.meList]
    exact hinv.ascending
  · rw [h.meList]
    exact hinv.known
  · rw [h.meList, h.meCount]
    exact hinv.count

theorem SameMib.allLive (h : ctx.SameMib ctx') (hlive : ctx.AllLive) :
    ctx'.AllLive := by
  rwa [AllLive, h.meList]

/-- What a call that reaches the given classes makes of a well-formed MIB. -/
structure Kept (table : ClassTable ω) (classes : ClassId → Prop) (ctx ctx' : Context ω) :
    Prop where
  confined : ∀ id, ¬ classes id → ctx'.meList id = ctx.meList id
  inv : MibInv table ctx'
  granted : ctx.PmGranted → ctx'.PmGranted
  live : ctx.PmGranted → ctx.AllLive → ctx'.AllLive

section Kept

variable {table : ClassTable ω} {classes : ClassId → Prop}

theorem Kept.refl {ctx : Context ω} (hinv : MibInv table ctx) : Kept table classes ctx ctx where
  confined _ _ := rfl
  inv := hinv
  granted := id
  live _ := id

theorem Kept.trans {first second third : Context ω} (h : Kept table classes first second)
    (h' : Kept table classes second third) : Kept table classes first third where
  confined id hid := (h'.confined id hid).trans (h.confined id hid)
  inv := h'.inv
  granted hgranted := h'.granted (h.granted hgranted)
  live hgranted hlive := h'.live (h.granted hgranted) (h.live hgranted hlive)

variable {ctx ctx' : Context ω}

theorem Kept.mono {wider : ClassId → Prop}
    (h : Kept table classes ctx ctx') (hwider : ∀ id, classes id → wider id) :
    Kept table wider ctx ctx' where
  confined id hid := h.confined id fun hclasses => hid (hwider id hclasses)
  inv := h.inv
  granted := h.granted
  live := h.live

theorem Kept.of_sameLists (hinv : MibInv table ctx)
    (hlist : ctx'.meList = ctx.meList) (hcount : ctx'.meCount = ctx.meCount)
    (hgranted : ctx.PmGranted → ctx'.PmGranted) : Kept table classes ctx ctx' where
  confined id _ := congrFun hlist id
  inv := by
    constructor
    · rw [hlist]
      exact hinv.ascending
    · rw [hlist]
      exact hinv.known
    · rw [hlist, hcount]
      exact hinv.count
  granted := hgranted
  live _ hlive := by rwa [AllLive, hlist]

/-- Changing the list of one known class, and the counter with it. -/
theorem MibInv.update (hinv : MibInv table ctx) {classId : ClassId}
    (hknown : classId ∈ table.ids) {list : List MeEntry}
    (hlist : ctx'.meList = Function.update ctx.meList classId list)
    (hasc : Ascending MeEntry.key list)
    (hcount : ctx'.meCount + (ctx.meList classId).length = ctx.meCount + list.length) :
    MibInv table ctx' where
  ascending id := by
    rw [hlist]
    by_cases hid : id = classId
    · rw [hid, Function.update_self]
      exact hasc
    · rw [Function.update_of_ne hid]
      exact hinv.ascending id
  known id hid := by
    have hne : id ≠ classId := fun h => hid (h ▸ hknown)
    rw [hlist, Function.update_of_ne hne]
    exact hinv.known id hid
  count := by
    have hmem : classId ∈ table.ids.toFinset := List.mem_toFinset.mpr hknown
    have hrest : ∑ id ∈ table.ids.toFinset.erase classId,
        (Function.update ctx.meList classId list id).length =
          ∑ id ∈ table.ids.toFinset.erase classId, (ctx.meList id).length := by
      apply Finset.sum_congr rfl
      intro id hid
      rw [Function.update_of_ne (Finset.ne_of_mem_erase hid)]
    have hold := hinv.count
    rw [← Finset.add_sum_erase _ _ hmem] at hold
    rw [hlist, ← Finset.add_sum_erase _ _ hmem, Function.update_self, hrest]
    omega

end Kept

end Context

open Context

def ClassTable.Reaches (table : ClassTable ω) (classId id : ClassId) : Prop :=
  id = classId ∨ table.Slave classId id

theorem ClassTable.slave_of_reaches (table : ClassTable ω) (classId : ClassId) :
    ∀ id, table.Slave classId id → ∀ id', table.Reaches id id' → table.Slave classId id' := by
  rintro id hid id' (rfl | hid')
  · exact hid
  · exact Nat.lt_trans hid' hid

theorem ClassTable.not_slave_self (table : ClassTable ω) (classId : ClassId) :
    ¬ table.Slave classId classId :=
  Nat.lt_irrefl _

/-- Nested calls keep what they must. -/
structure MibOps.Keeps (table : ClassTable ω) (ops : MibOps ω) : Prop where
  create : ∀ ctx active classId inst data avc, MibInv table ctx →
    Kept table (table.Reaches classId) ctx (ops.create ctx active classId inst data avc).1
  delete : ∀ ctx classId inst, MibInv table ctx →
    Kept table (table.Reaches classId) ctx (ops.delete ctx classId inst).1

variable {ctx : Context ω}

/-- A script keeps what its calls keep. -/
theorem Script.run_kept {table : ClassTable ω} {ops : MibOps ω} (hops : ops.Keeps table)
    {classes : ClassId → Prop}
    (hclosed : ∀ id, classes id → ∀ id', table.Reaches id id' → classes id')
    {script : Script ω} (hscript : script.Only classes)
    (hinv : MibInv table ctx) : Kept table classes ctx (script.run table ops ctx).1 := by
  induction script generalizing ctx with
  | done err => exact Kept.refl hinv
  | work handle next ih =>
      have hwork : Kept table classes ctx { ctx with store := (handle ctx.handlerStore).1 } :=
        Kept.of_sameLists hinv rfl rfl id
      exact hwork.trans (ih _ (hscript _) hwork.inv)
  | find classId inst next ih => exact ih _ (hscript _) hinv
  | create active classId inst data avc next ih =>
      have hcall := (hops.create ctx active classId inst data avc hinv).mono
        (hclosed classId hscript.1)
      exact hcall.trans (ih _ _ (hscript.2 _ _) hcall.inv)
  | delete classId inst next ih =>
      have hcall := (hops.delete ctx classId inst hinv).mono (hclosed classId hscript.1)
      exact hcall.trans (ih _ (hscript.2 _) hcall.inv)

/-! ## Requests change nothing but the supply -/

def OnlySupply (step : Context ω → Context ω × Option OmciError) : Prop :=
  ∀ ctx, ctx.SameMib (step ctx).1 ∧ (ctx.PmGranted → (step ctx).1.PmGranted)

theorem Context.PmGranted.request (h : ctx.PmGranted)
    (resource : Resource) : (ctx.request resource).1.PmGranted := by
  intro n
  simp only [Context.request]
  split
  · exact h (n + 1)
  · exact h n

theorem acquire_onlySupply (needed : Bool) (resource : Resource) (code : OmciError) :
    OnlySupply (acquire (ω := ω) needed resource code) := by
  intro ctx
  cases needed with
  | true => exact ⟨⟨rfl, rfl, rfl⟩, fun h => h.request resource⟩
  | false => exact ⟨SameMib.refl ctx, id⟩

theorem pmMeContextAlloc_onlySupply (cls : MeClass ω) : OnlySupply (pmMeContextAlloc cls) := by
  intro ctx
  rw [pmMeContextAlloc]
  split
  · dsimp only
    split
    · exact ⟨⟨rfl, rfl, rfl⟩, fun h => ((h.request _).request _).request _⟩
    · exact ⟨⟨rfl, rfl, rfl⟩, fun h => h.request _⟩
  · exact ⟨SameMib.refl ctx, id⟩

theorem acquireAll_onlySupply {steps : List (Context ω → Context ω × Option OmciError)}
    (hsteps : ∀ step ∈ steps, OnlySupply step) : OnlySupply (acquireAll steps) := by
  induction steps with
  | nil => exact fun ctx => ⟨SameMib.refl ctx, id⟩
  | cons step steps ih =>
      intro ctx
      obtain ⟨hsame, hgranted⟩ := hsteps step List.mem_cons_self ctx
      rw [acquireAll]
      split
      · rename_i ctx' hstep
        rw [hstep] at hsame hgranted
        obtain ⟨hsame', hgranted'⟩ := ih (fun s hs => hsteps s (List.mem_cons_of_mem _ hs)) ctx'
        exact ⟨hsame.trans hsame', fun h => hgranted' (hgranted h)⟩
      · rename_i ctx' code hstep
        rw [hstep] at hsame hgranted
        exact ⟨hsame, hgranted⟩

theorem meResources_onlySupply (cls : MeClass ω) : OnlySupply (acquireAll (meResources cls)) := by
  apply acquireAll_onlySupply
  intro step hstep
  simp only [meResources, List.mem_cons, List.not_mem_nil, or_false] at hstep
  rcases hstep with rfl | rfl | rfl | rfl | rfl | rfl
  · exact acquire_onlySupply _ _ _
  · exact acquire_onlySupply _ _ _
  · exact acquire_onlySupply _ _ _
  · exact acquire_onlySupply _ _ _
  · exact pmMeContextAlloc_onlySupply cls
  · exact acquire_onlySupply _ _ _

theorem pmMeAdd_lists (cls : MeClass ω) (ref : MeRef) (ctx : Context ω) :
    (pmMeAdd cls ref ctx).1.meList = ctx.meList ∧
      (pmMeAdd cls ref ctx).1.meCount = ctx.meCount := by
  rw [pmMeAdd]
  split
  · dsimp only
    split <;> exact ⟨rfl, rfl⟩
  · exact ⟨rfl, rfl⟩

theorem pmMeAdd_granted (cls : MeClass ω) (ref : MeRef) (h : ctx.PmGranted) :
    (pmMeAdd cls ref ctx).1.PmGranted ∧ (pmMeAdd cls ref ctx).2 = .success := by
  rw [pmMeAdd]
  split
  · dsimp only
    have hgranted : (ctx.request .pmListEntry).2 = true := h 0
    rw [if_pos hgranted]
    exact ⟨h.request .pmListEntry, rfl⟩
  · exact ⟨h, rfl⟩

theorem pmMeRemove_kept {table : ClassTable ω} {classes : ClassId → Prop} (cls : MeClass ω)
    (ref : MeRef) (hinv : MibInv table ctx) :
    Kept table classes ctx (pmMeRemove cls ref ctx) := by
  rw [pmMeRemove]
  split
  · exact Kept.of_sameLists hinv rfl rfl id
  · exact Kept.refl hinv

/-! ## Insertion -/

theorem MeEntry.key_lt_iff {first second : MeEntry} :
    first.key < second.key ↔ first.instanceId < second.instanceId :=
  BitVec.lt_def.symm

theorem insertBehind_eq (entry : MeEntry) (list : List MeEntry) :
    insertBehind entry list =
      list.orderedInsert (fun a b => a.key ≤ b.key) entry := by
  induction list with
  | nil => rfl
  | cons next rest ih =>
      rw [insertBehind, List.orderedInsert_cons, ih]
      by_cases hlt : next.instanceId < entry.instanceId
      · rw [if_pos hlt, if_neg (not_le.mpr (MeEntry.key_lt_iff.mpr hlt))]
      · rw [if_neg hlt, if_pos (not_lt.mp fun h => hlt (MeEntry.key_lt_iff.mp h))]

theorem mibMeAddToClassEntry_eq {entry : MeEntry} {list : List MeEntry}
    (hnew : ∀ other ∈ list, other.key ≠ entry.key) :
    mibMeAddToClassEntry entry list =
      list.orderedInsert (fun a b => a.key ≤ b.key) entry := by
  cases list with
  | nil => rfl
  | cons first rest =>
      have hne : first.key ≠ entry.key := hnew first List.mem_cons_self
      rw [mibMeAddToClassEntry, List.orderedInsert_cons, insertBehind_eq]
      by_cases hlt : entry.instanceId < first.instanceId
      · rw [if_pos hlt, if_pos (MeEntry.key_lt_iff.mpr hlt).le]
      · rw [if_neg hlt, if_neg]
        intro hle
        exact hlt (MeEntry.key_lt_iff.mp (lt_of_le_of_ne hle hne.symm))

theorem mem_insertBehind (entry other : MeEntry) (list : List MeEntry) :
    other ∈ insertBehind entry list ↔ other = entry ∨ other ∈ list := by
  rw [insertBehind_eq, List.mem_orderedInsert]

theorem length_mibMeAddToClassEntry (entry : MeEntry) (list : List MeEntry) :
    (mibMeAddToClassEntry entry list).length = list.length + 1 := by
  cases list with
  | nil => rfl
  | cons first rest =>
      rw [mibMeAddToClassEntry]
      split
      · rfl
      · simp [insertBehind_eq, List.orderedInsert_length]

theorem mem_mibMeAddToClassEntry (entry other : MeEntry) (list : List MeEntry) :
    other ∈ mibMeAddToClassEntry entry list ↔ other = entry ∨ other ∈ list := by
  cases list with
  | nil => simp [mibMeAddToClassEntry]
  | cons first rest =>
      rw [mibMeAddToClassEntry]
      split
      · exact List.mem_cons
      · rw [List.mem_cons, mem_insertBehind, List.mem_cons]
        tauto

/-! ## The ways creation can end -/

section Handlers

variable {table : ClassTable ω} {ops : MibOps ω} {cls : MeClass ω}

/-- What `mib_me_create` does with a class it knows and an instance it does not. -/
inductive MeCreated (table : ClassTable ω) (ops : MibOps ω) (cls : MeClass ω)
    (ctx : Context ω) (active : Bool) (inst : InstanceId) (data : Option (List Byte))
    (avc : AttrMask) : Context ω × OmciError × Option MeRef → Prop
  | denied {ctx' : Context ω} {code : OmciError} :
      acquireAll (meResources cls) ctx = (ctx', some code) →
      MeCreated table ops cls ctx active inst data avc (ctx', code, none)
  | initFailed {ctx' after : Context ω} {err : OmciError} :
      acquireAll (meResources cls) ctx = (ctx', none) →
      callInit table ops cls active ctx'.nextRef inst data avc ctx'.newMe = (after, err) →
      err ≠ .success →
      MeCreated table ops cls ctx active inst data avc
        (callShutdown table ops cls active ctx'.nextRef inst after, err, none)
  | created {ctx' after linked : Context ω} :
      acquireAll (meResources cls) ctx = (ctx', none) →
      callInit table ops cls active ctx'.nextRef inst data avc ctx'.newMe =
        (after, .success) →
      pmMeAdd cls ctx'.nextRef (after.link cls ⟨ctx'.nextRef, inst, active, true⟩) =
        (linked, .success) →
      MeCreated table ops cls ctx active inst data avc (linked, .success, some ctx'.nextRef)
  | pmDenied {ctx' after linked : Context ω} {err : OmciError} :
      acquireAll (meResources cls) ctx = (ctx', none) →
      callInit table ops cls active ctx'.nextRef inst data avc ctx'.newMe =
        (after, .success) →
      pmMeAdd cls ctx'.nextRef (after.link cls ⟨ctx'.nextRef, inst, active, true⟩) =
        (linked, err) →
      err ≠ .success →
      MeCreated table ops cls ctx active inst data avc
        ((callShutdown table ops cls active ctx'.nextRef inst linked).freeLinked cls.classId
          ctx'.nextRef, err, some ctx'.nextRef)

theorem meCreate_created (ctx : Context ω) (active : Bool) (inst : InstanceId)
    (data : Option (List Byte)) (avc : AttrMask) :
    MeCreated table ops cls ctx active inst data avc
      (meCreate table ops cls ctx active inst data avc) := by
  rw [meCreate]
  split
  · rename_i ctx' code hacquire
    exact .denied hacquire
  · rename_i ctx' hacquire
    dsimp only
    generalize hinit : callInit table ops cls active ctx'.nextRef inst data avc
      ctx'.newMe = result
    obtain ⟨after, err⟩ := result
    by_cases herr : err = .success
    · subst herr
      dsimp only
      generalize hpm : pmMeAdd cls ctx'.nextRef
        (after.link cls ⟨ctx'.nextRef, inst, active, true⟩) = result
      obtain ⟨linked, err⟩ := result
      by_cases herr : err = .success
      · subst herr
        exact .created hacquire hinit hpm
      · simpa [herr] using MeCreated.pmDenied hacquire hinit hpm herr
    · simpa [herr] using MeCreated.initFailed hacquire hinit herr

theorem callInit_kept (hops : ops.Keeps table) (hcls : cls ∈ table.classes)
    (active : Bool) (ref : MeRef) (inst : InstanceId) (data : Option (List Byte))
    (avc : AttrMask) (hinv : MibInv table ctx) :
    Kept table (table.Slave cls.classId) ctx
      (callInit table ops cls active ref inst data avc ctx).1 := by
  rw [callInit]
  split
  · rename_i init hinit
    split
    · exact Script.run_kept hops (table.slave_of_reaches cls.classId)
        (table.initSlaves cls hcls init hinit ref inst data avc) hinv
    · exact Kept.refl hinv
  · exact Kept.refl hinv

theorem callShutdown_kept (hops : ops.Keeps table) (hcls : cls ∈ table.classes)
    (active : Bool) (ref : MeRef) (inst : InstanceId) (hinv : MibInv table ctx) :
    Kept table (table.Slave cls.classId) ctx (callShutdown table ops cls active ref inst ctx) := by
  rw [callShutdown]
  split
  · rename_i shutdown hshutdown
    split
    · exact Script.run_kept hops (table.slave_of_reaches cls.classId)
        (table.shutdownSlaves cls hcls shutdown hshutdown ref inst) hinv
    · exact Kept.refl hinv
  · exact Kept.refl hinv

def Context.Fresh (ctx : Context ω) (classId : ClassId) (inst : InstanceId) : Prop :=
  ∀ entry ∈ ctx.meList classId, entry.key ≠ inst.toNat

/-- Linking an entry for an instance that does not exist yet. -/
theorem link_kept (hcls : cls ∈ table.classes) (hinv : MibInv table ctx)
    {entry : MeEntry} (hfresh : ctx.Fresh cls.classId entry.instanceId)
    (hlive : entry.live = true) :
    Kept table (table.Reaches cls.classId) ctx (ctx.link cls entry) where
  confined id hid := by
    rw [Context.link_meList, Function.update_of_ne]
    exact fun hsame => hid (Or.inl hsame)
  inv := by
    apply hinv.update (List.mem_map_of_mem hcls) rfl
    · rw [mibMeAddToClassEntry_eq hfresh]
      exact (hinv.ascending cls.classId).orderedInsert hfresh
    · rw [length_mibMeAddToClassEntry, Context.link_meCount]
      omega
  granted := id
  live _ halive id other hother := by
    rw [Context.link_meList] at hother
    by_cases hid : id = cls.classId
    · subst hid
      rw [Function.update_self] at hother
      rcases (mem_mibMeAddToClassEntry _ _ _).mp hother with rfl | hold
      · exact hlive
      · exact halive _ other hold
    · rw [Function.update_of_ne hid] at hother
      exact halive id other hother

theorem map_freeLinked_key (ref : MeRef) (list : List MeEntry) :
    (list.map fun entry =>
      if entry.ref = ref then { entry with live := false } else entry).map MeEntry.key =
      list.map MeEntry.key := by
  rw [List.map_map]
  apply List.map_congr_left
  intro entry _
  simp only [Function.comp_apply]
  split <;> rfl

theorem ascending_iff_map {list : List MeEntry} :
    Ascending MeEntry.key list ↔ (list.map MeEntry.key).Pairwise (· < ·) :=
  List.pairwise_map.symm

theorem freeLinked_inv (hcls : cls ∈ table.classes) (ref : MeRef)
    (hinv : MibInv table ctx) : MibInv table (ctx.freeLinked cls.classId ref) := by
  apply hinv.update (List.mem_map_of_mem hcls) rfl
  · rw [ascending_iff_map, map_freeLinked_key, ← ascending_iff_map]
    exact hinv.ascending cls.classId
  · rw [List.length_map, Context.freeLinked_meCount]

/-- Unlinking an entry of the list. -/
theorem unlink_kept (hcls : cls ∈ table.classes) (hinv : MibInv table ctx)
    {entry : MeEntry} (hentry : entry ∈ ctx.meList cls.classId) :
    Kept table (table.Reaches cls.classId) ctx (ctx.unlink cls entry) where
  confined id hid := by
    rw [Context.unlink_meList, Function.update_of_ne]
    exact fun hsame => hid (Or.inl hsame)
  inv := by
    have hid : cls.classId ∈ table.ids := List.mem_map_of_mem hcls
    have hpos : 0 < (ctx.meList cls.classId).length := List.length_pos_of_mem hentry
    have hle : (ctx.meList cls.classId).length ≤ ctx.meCount := by
      rw [hinv.count, ← Finset.add_sum_erase _ _ (List.mem_toFinset.mpr hid)]
      exact Nat.le_add_right _ _
    apply hinv.update hid rfl
    · exact (hinv.ascending cls.classId).sublist List.erase_sublist
    · rw [List.length_erase_of_mem hentry, Context.unlink_meCount]
      omega
  granted := id
  live _ halive id other hother := by
    rw [Context.unlink_meList] at hother
    by_cases hid : id = cls.classId
    · subst hid
      rw [Function.update_self] at hother
      exact halive _ other (List.mem_of_mem_erase hother)
    · rw [Function.update_of_ne hid] at hother
      exact halive id other hother

variable {ctx' : Context ω}

variable {inst : InstanceId} {data : Option (List Byte)} {avc : AttrMask} {err : OmciError}
  {classes : ClassId → Prop}

theorem Context.Fresh.of_kept
    (hfresh : ctx.Fresh cls.classId inst) (hkept : Kept table (table.Slave cls.classId) ctx ctx') :
    ctx'.Fresh cls.classId inst := by
  rw [Context.Fresh, hkept.confined _ (table.not_slave_self _)]
  exact hfresh

theorem acquireAll_kept (hinv : MibInv table ctx) {code : Option OmciError}
    (hacquire : acquireAll (meResources cls) ctx = (ctx', code)) : Kept table classes ctx ctx' := by
  have honly := meResources_onlySupply cls ctx
  rw [hacquire] at honly
  exact Kept.of_sameLists hinv honly.1.meList honly.1.meCount honly.2

theorem pmMeAdd_kept (hinv : MibInv table ctx) {ref : MeRef}
    (hpm : pmMeAdd cls ref ctx = (ctx', err)) : Kept table classes ctx ctx' := by
  have hlists := pmMeAdd_lists cls ref ctx
  have hgranted (h : ctx.PmGranted) := (pmMeAdd_granted cls ref h).1
  rw [hpm] at hlists hgranted
  exact Kept.of_sameLists hinv hlists.1 hlists.2 hgranted

theorem callInit_kept_of_acquired (hops : ops.Keeps table) (hcls : cls ∈ table.classes)
    {ctx after : Context ω} (hinv : MibInv table ctx) {active : Bool}
    (hacquire : acquireAll (meResources cls) ctx = (ctx', none))
    (hinit : callInit table ops cls active ctx'.nextRef inst data avc ctx'.newMe = (after, err)) :
    Kept table (table.Slave cls.classId) ctx after := by
  have hacquired : Kept table (table.Slave cls.classId) ctx ctx' :=
    acquireAll_kept hinv hacquire
  have hnew : Kept table (table.Slave cls.classId) ctx' ctx'.newMe :=
    Kept.of_sameLists hacquired.inv rfl rfl id
  have hcall := callInit_kept hops hcls active ctx'.nextRef inst data avc hnew.inv
  rw [hinit] at hcall
  exact (hacquired.trans hnew).trans hcall

/-- A call for the slaves of a class is within what a call for the class
reaches. -/
theorem Context.Kept.of_slaves {classId : ClassId}
    (h : Kept table (table.Slave classId) ctx ctx') : Kept table (table.Reaches classId) ctx ctx' :=
  h.mono fun _ => Or.inr

/-- What the linked entity has kept of the state before the call. -/
theorem link_kept_of_acquired (hops : ops.Keeps table) (hcls : cls ∈ table.classes)
    {ctx after : Context ω} (hinv : MibInv table ctx) {active : Bool}
    (hfresh : ctx.Fresh cls.classId inst)
    (hacquire : acquireAll (meResources cls) ctx = (ctx', none))
    (hinit : callInit table ops cls active ctx'.nextRef inst data avc ctx'.newMe = (after, err)) :
    Kept table (table.Reaches cls.classId) ctx
      (after.link cls ⟨ctx'.nextRef, inst, active, true⟩) := by
  have hkept := callInit_kept_of_acquired hops hcls hinv hacquire hinit
  have hfresh' : after.Fresh cls.classId inst := hfresh.of_kept hkept
  apply hkept.of_slaves.trans
  apply link_kept hcls hkept.inv
  · exact hfresh'
  · rfl

/-- `mib_me_create` keeps what it must, whichever way it ends. -/
theorem MeCreated.kept (hops : ops.Keeps table) (hcls : cls ∈ table.classes)
    (hinv : MibInv table ctx) {active : Bool} (hfresh : ctx.Fresh cls.classId inst)
    {result : Context ω × OmciError × Option MeRef}
    (h : MeCreated table ops cls ctx active inst data avc result) :
    Kept table (table.Reaches cls.classId) ctx result.1 := by
  cases h with
  | denied hacquire => exact acquireAll_kept hinv hacquire
  | initFailed hacquire hinit herr =>
      have hkept := callInit_kept_of_acquired hops hcls hinv hacquire hinit
      exact (hkept.trans (callShutdown_kept hops hcls _ _ _ hkept.inv)).of_slaves
  | created hacquire hinit hpm =>
      have hlink := link_kept_of_acquired hops hcls hinv hfresh hacquire hinit
      exact hlink.trans (pmMeAdd_kept hlink.inv hpm)
  | @pmDenied ctx' after linked err hacquire hinit hpm herr =>
      have hlink := link_kept_of_acquired hops hcls hinv hfresh hacquire hinit
      have hadd := hlink.trans (pmMeAdd_kept hlink.inv hpm)
      have hbefore := hadd.trans
        (callShutdown_kept hops hcls active ctx'.nextRef inst hadd.inv).of_slaves
      constructor
      · intro id hid
        have hne : id ≠ cls.classId := fun h => hid (Or.inl h)
        rw [freeLinked_meList, Function.update_of_ne hne]
        exact hbefore.confined id hid
      · exact freeLinked_inv hcls _ hbefore.inv
      · exact hbefore.granted
      · -- a granted request does not lead here
        intro hgranted
        have hsuccess := (pmMeAdd_granted cls ctx'.nextRef (hlink.granted hgranted)).2
        rw [hpm] at hsuccess
        exact absurd hsuccess herr

end Handlers

/-! ## All nesting depths -/

section Depth

variable {table : ClassTable ω} {ops : MibOps ω}

/-- An instance that `mib_me_find` misses does not exist. -/
theorem fresh_of_mibMeFind (hinv : MibInv table ctx) {classId : ClassId}
    {cls : MeClass ω} (hclass : table.classEntryFind classId = some cls)
    {inst : InstanceId} {err : OmciError}
    (hfind : mibMeFind table ctx classId inst = .error err) : ctx.Fresh classId inst := by
  rw [mibMeFind, hclass] at hfind
  have hnone : findAscending MeEntry.key inst.toNat (ctx.meList classId) = none := by
    cases hlookup : findAscending MeEntry.key inst.toNat (ctx.meList classId) with
    | none => rfl
    | some entry => simp [hlookup] at hfind
  exact (findAscending_eq_none_iff (hinv.ascending classId)).mp hnone

theorem mibMeCreateWith_kept (hops : ops.Keeps table)
    (hinv : MibInv table ctx) (active : Bool) (classId : ClassId) (inst : InstanceId)
    (data : Option (List Byte)) (avc : AttrMask) :
    Kept table (table.Reaches classId) ctx
      (mibMeCreateWith table ops ctx active classId inst data avc).1 := by
  rw [mibMeCreateWith]
  split
  · exact Kept.refl hinv
  · rename_i err hfind
    split
    · exact Kept.refl hinv
    · rename_i cls hclass
      obtain ⟨hcls, rfl⟩ := ClassTable.classEntryFind_eq_some hclass
      exact (meCreate_created ctx active inst data avc).kept hops hcls hinv
        (fresh_of_mibMeFind hinv hclass hfind)

theorem mibMeDeleteWith_kept (hops : ops.Keeps table)
    (hinv : MibInv table ctx) (classId : ClassId) (inst : InstanceId) :
    Kept table (table.Reaches classId) ctx (mibMeDeleteWith table ops ctx classId inst).1 := by
  rw [mibMeDeleteWith]
  split
  · exact Kept.refl hinv
  · rename_i cls hclass
    obtain ⟨hcls, rfl⟩ := ClassTable.classEntryFind_eq_some hclass
    split
    · exact Kept.refl hinv
    · rename_i entry hentry
      have hremove : Kept table (table.Slave cls.classId) ctx
          (pmMeRemove cls entry.ref ctx) := pmMeRemove_kept cls entry.ref hinv
      have hkept := hremove.trans
        (callShutdown_kept hops hcls entry.active entry.ref inst hremove.inv)
      apply hkept.of_slaves.trans
      apply unlink_kept hcls hkept.inv
      rw [hkept.confined _ (table.not_slave_self _)]
      exact List.mem_of_find?_eq_some hentry

theorem mibOps_keeps (table : ClassTable ω) (depth : Nat) : (mibOps table depth).Keeps table := by
  induction depth with
  | zero => exact ⟨fun _ _ _ _ _ _ hinv => Kept.refl hinv, fun _ _ _ hinv => Kept.refl hinv⟩
  | succ depth ih =>
      constructor
      · intro ctx active classId inst data avc hinv
        exact mibMeCreateWith_kept ih hinv active classId inst data avc
      · intro ctx classId inst hinv
        exact mibMeDeleteWith_kept ih hinv classId inst

theorem mibMeCreate_kept (hinv : MibInv table ctx) (active : Bool)
    (classId : ClassId) (inst : InstanceId) (data : Option (List Byte)) (avc : AttrMask) :
    Kept table (table.Reaches classId) ctx (mibMeCreate table ctx active classId inst data avc).1 :=
  mibMeCreateWith_kept (mibOps_keeps table _) hinv active classId inst data avc

theorem mibMeDelete_kept (hinv : MibInv table ctx) (classId : ClassId) (inst : InstanceId) :
    Kept table (table.Reaches classId) ctx (mibMeDelete table ctx classId inst).1 :=
  mibMeDeleteWith_kept (mibOps_keeps table _) hinv classId inst

theorem mibCalls_keeps (table : ClassTable ω) : (mibCalls table).Keeps table where
  create _ active classId inst data avc hinv := mibMeCreate_kept hinv active classId inst data avc
  delete _ classId inst hinv := mibMeDelete_kept hinv classId inst

end Depth

/-! ## Lookup -/

section Find

variable {table : ClassTable ω}

theorem Context.MibInv.classEntryFind (hinv : MibInv table ctx) {classId : ClassId}
    {entry : MeEntry} (hentry : entry ∈ ctx.meList classId) :
    ∃ cls, table.classEntryFind classId = some cls := by
  have hid : classId ∈ table.ids := by
    by_contra hid
    rw [hinv.known classId hid] at hentry
    cases hentry
  obtain ⟨cls, hcls, hclassId⟩ := List.mem_map.mp hid
  have hsome : (table.classEntryFind classId).isSome := by
    rw [ClassTable.classEntryFind, List.find?_isSome]
    exact ⟨cls, hcls, by simpa using hclassId⟩
  exact Option.isSome_iff_exists.mp hsome

/-- `mib_me_find` finds exactly what the lists hold. -/
theorem Context.MibInv.mibMeFind_iff (hinv : MibInv table ctx) (classId : ClassId)
    (inst : InstanceId) (ref : MeRef) :
    mibMeFind table ctx classId inst = .ok ref ↔
      ∃ entry ∈ ctx.meList classId, entry.instanceId = inst ∧ entry.ref = ref := by
  have hasc := hinv.ascending classId
  constructor
  · intro hfind
    rw [mibMeFind] at hfind
    split at hfind
    · cases hfind
    · split at hfind
      · rename_i entry hentry
        obtain ⟨hmem, hkey⟩ := findAscending_mem hentry
        exact ⟨entry, hmem, BitVec.eq_of_toNat_eq hkey, Except.ok.inj hfind⟩
      · cases hfind
  · rintro ⟨entry, hmem, rfl, rfl⟩
    obtain ⟨cls, hclass⟩ := hinv.classEntryFind hmem
    have hlookup := (findAscending_eq_some_iff hasc).mpr ⟨hmem, rfl⟩
    rw [MeEntry.key] at hlookup
    rw [mibMeFind, hclass, hlookup]

end Find

theorem Context.mibInv_empty (table : ClassTable ω) (supply : Resource → Nat → Bool)
    (store : Store ω) : MibInv table (Context.empty supply store) where
  ascending _ := Ascending.nil
  known _ _ := rfl
  count := by simp [Context.empty]

end FalconGpon.Omci
