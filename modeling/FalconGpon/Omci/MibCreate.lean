/-
# Creation is atomic, except where it is not

`mib_me_create` should either put the entity into the MIB and return success, or
return an error and leave the lists, the counter and the PM list as they were. It
does so except in three situations: the request for the entity's data is denied
(the error code is then that of the step before, which succeeded), the class's
shutdown handler does not undo what its failing init handler did, and the request
for the PM list entry is denied (the entity is already linked then).
-/

import FalconGpon.Omci.MeDef
import FalconGpon.Omci.MibInvariant

namespace FalconGpon.Omci

open FalconGpon.Lib Context

variable {ω : Type}

def Context.Holds (ctx : Context ω) (classId : ClassId) (inst : InstanceId) (ref : MeRef) : Prop :=
  ∃ entry ∈ ctx.meList classId, entry.instanceId = inst ∧ entry.ref = ref ∧ entry.live = true

/-- What `mib_me_create` should do, all or nothing. -/
structure CreateAtomic (ctx : Context ω) (classId : ClassId) (inst : InstanceId)
    (result : Context ω × OmciError × Option MeRef) : Prop where
  success : result.2.1 = .success ↔
    ∃ ref, result.2.2 = some ref ∧ result.1.Holds classId inst ref
  failure : result.2.1 ≠ .success → ctx.SameMib result.1

/-! ## Acquiring the resources -/

/-- What is asked for before the data is granted. -/
structure HeaderGranted (cls : MeClass ω) (ctx : Context ω) : Prop where
  meEntry : ctx.supply .meEntry 0 = true
  alarmBitmap : hasProp cls.prop MeProp.hasAlarms = true → ctx.supply .alarmBitmap 0 = true
  arcContext : hasProp cls.prop MeProp.hasArc = true → ctx.supply .arcContext 0 = true

/-- What `pm_me_context_alloc` asks for is granted. -/
def PmContextGranted (cls : MeClass ω) (ctx : Context ω) : Prop :=
  hasProp cls.prop MeProp.pmInternal = true →
    ctx.supply .pmContext 0 = true ∧ cls.dataSize ≠ 0 ∧ ctx.supply .pmHist 0 = true ∧
      ctx.supply .pmAbs 0 = true

instance (cls : MeClass ω) (ctx : Context ω) : Decidable (PmContextGranted cls ctx) :=
  inferInstanceAs (Decidable (_ → _))

/-- Everything before the request for the data is granted, and that is denied. -/
structure DataDenied (cls : MeClass ω) (ctx : Context ω) : Prop where
  header : HeaderGranted cls ctx
  needed : cls.dataSize ≠ 0
  denied : ctx.supply .meData 0 = false

/-- All that `mib_me_create` asks for before the init handler is granted. -/
structure Granted (cls : MeClass ω) (ctx : Context ω) : Prop where
  header : HeaderGranted cls ctx
  meData : cls.dataSize ≠ 0 → ctx.supply .meData 0 = true
  pmContext : PmContextGranted cls ctx
  meLock : ctx.supply .meLock 0 = true

theorem request_supply_of_ne (ctx : Context ω) {resource other : Resource}
    (h : other ≠ resource) : (ctx.request resource).1.supply other = ctx.supply other := by
  funext n
  simp [Context.request, h]

theorem acquire_supply_of_ne (needed : Bool) (code : OmciError) (ctx : Context ω)
    {resource other : Resource} (h : other ≠ resource) :
    (acquire needed resource code ctx).1.supply other = ctx.supply other := by
  cases needed with
  | true => exact request_supply_of_ne ctx h
  | false => rfl

theorem acquireAll_acquire (needed : Bool) (resource : Resource) (code : OmciError)
    (steps : List (Context ω → Context ω × Option OmciError)) (ctx : Context ω) :
    (acquireAll (acquire needed resource code :: steps) ctx).2 =
      if needed = true → ctx.supply resource 0 = true then
        (acquireAll steps (acquire needed resource code ctx).1).2
      else some code := by
  cases needed with
  | true =>
      cases hgranted : ctx.supply resource 0 <;>
        simp [acquireAll, acquire, Context.request, hgranted]
  | false => simp [acquireAll, acquire]

theorem pmMeContextAlloc_snd (cls : MeClass ω) (ctx : Context ω) :
    (pmMeContextAlloc cls ctx).2 = if PmContextGranted cls ctx then none else some .memory := by
  by_cases hinternal : hasProp cls.prop MeProp.pmInternal = true
  · cases hpm : ctx.supply .pmContext 0 with
    | false => simp [pmMeContextAlloc, PmContextGranted, Context.request, hinternal, hpm]
    | true =>
        simp [pmMeContextAlloc, PmContextGranted, Context.request, hinternal, hpm, and_assoc]
  · simp [pmMeContextAlloc, PmContextGranted, hinternal]

theorem pmMeContextAlloc_meLock (cls : MeClass ω) (ctx : Context ω) :
    (pmMeContextAlloc cls ctx).1.supply .meLock = ctx.supply .meLock := by
  rw [pmMeContextAlloc]
  split
  · dsimp only
    split <;> simp [request_supply_of_ne]
  · rfl

theorem acquireAll_pmMeContextAlloc (cls : MeClass ω)
    (steps : List (Context ω → Context ω × Option OmciError)) (ctx : Context ω) :
    (acquireAll (pmMeContextAlloc cls :: steps) ctx).2 =
      if PmContextGranted cls ctx then (acquireAll steps (pmMeContextAlloc cls ctx).1).2
      else some .memory := by
  have hsnd := pmMeContextAlloc_snd cls ctx
  rw [acquireAll]
  split <;> rename_i hstep <;> rw [hstep] at hsnd <;> simp_all

/-- The first denied request decides the error code. -/
theorem acquireAll_meResources (cls : MeClass ω) (ctx : Context ω) :
    (acquireAll (meResources cls) ctx).2 =
      if ctx.supply .meEntry 0 = true then
        if hasProp cls.prop MeProp.hasAlarms = true → ctx.supply .alarmBitmap 0 = true then
          if hasProp cls.prop MeProp.hasArc = true → ctx.supply .arcContext 0 = true then
            if cls.dataSize ≠ 0 → ctx.supply .meData 0 = true then
              if PmContextGranted cls ctx then
                if ctx.supply .meLock 0 = true then none else some .error
              else some .memory
            else some .success
          else some .memory
        else some .memory
      else some .memory := by
  have hnil (ctx : Context ω) : (acquireAll [] ctx).2 = none := rfl
  simp [meResources, acquireAll_acquire, acquireAll_pmMeContextAlloc, acquire_supply_of_ne,
    pmMeContextAlloc_meLock, PmContextGranted, hnil]
  congr

theorem acquireAll_eq_none_iff (cls : MeClass ω) (ctx : Context ω) :
    (acquireAll (meResources cls) ctx).2 = none ↔ Granted cls ctx := by
  rw [acquireAll_meResources]
  constructor
  · intro h
    split_ifs at h with hentry halarm harc hdata hpm hlock
    exact ⟨⟨hentry, halarm, harc⟩, hdata, hpm, hlock⟩
  · rintro ⟨⟨hentry, halarm, harc⟩, hdata, hpm, hlock⟩
    rw [if_pos hentry, if_pos halarm, if_pos harc, if_pos hdata, if_pos hpm, if_pos hlock]

theorem acquireAll_eq_success_iff (cls : MeClass ω) (ctx : Context ω) :
    (acquireAll (meResources cls) ctx).2 = some .success ↔ DataDenied cls ctx := by
  rw [acquireAll_meResources]
  constructor
  · intro h
    split_ifs at h with hentry halarm harc hdata hpm hlock <;> cases h
    obtain ⟨hneeded, hdenied⟩ := Classical.not_imp.mp hdata
    exact ⟨⟨hentry, halarm, harc⟩, hneeded, Bool.eq_false_of_not_eq_true hdenied⟩
  · rintro ⟨⟨hentry, halarm, harc⟩, hneeded, hdenied⟩
    have hdata : ¬ (cls.dataSize ≠ 0 → ctx.supply .meData 0 = true) := by
      simp [hneeded, hdenied]
    rw [if_pos hentry, if_pos halarm, if_pos harc, if_neg hdata]

/-! ## When creation is atomic -/

/-- The context in which `mib_me_create` has got all it asked for. -/
def acquired (cls : MeClass ω) (ctx : Context ω) : Context ω :=
  (acquireAll (meResources cls) ctx).1

/-- The call of the init handler on the new record. -/
def initialise (table : ClassTable ω) (cls : MeClass ω) (ctx : Context ω) (active : Bool)
    (inst : InstanceId) (data : Option (List Byte)) (avc : AttrMask) : Context ω × OmciError :=
  callInit table (mibCalls table) cls active (acquired cls ctx).nextRef inst data avc
    (acquired cls ctx).newMe

/-- None of the three situations in which creation is not atomic. -/
structure CreateSafe (table : ClassTable ω) (cls : MeClass ω) (ctx : Context ω)
    (active : Bool) (inst : InstanceId) (data : Option (List Byte)) (avc : AttrMask) :
    Prop where
  /-- The request for the data is not the one that is denied. -/
  meData : ¬ DataDenied cls ctx
  /-- If the init handler fails, the shutdown handler undoes what it did. -/
  undone : Granted cls ctx → (initialise table cls ctx active inst data avc).2 ≠ .success →
    ctx.SameMib (callShutdown table (mibCalls table) cls active (acquired cls ctx).nextRef
      inst (initialise table cls ctx active inst data avc).1)
  /-- If it succeeds, the PM list entry is granted where one is needed. -/
  pmListEntry : Granted cls ctx →
    (initialise table cls ctx active inst data avc).2 = .success →
    hasProp cls.prop MeProp.pmInternal = true →
    (initialise table cls ctx active inst data avc).1.supply .pmListEntry 0 = true

theorem Script.run_sameMib {table : ClassTable ω} {ops : MibOps ω} {script : Script ω}
    (hscript : script.Only fun _ => False) (ctx : Context ω) :
    ctx.SameMib (script.run table ops ctx).1 := by
  induction script generalizing ctx with
  | done err => exact SameMib.refl ctx
  | work handle next ih =>
      have hwork : ctx.SameMib { ctx with store := (handle ctx.handlerStore).1 } := ⟨rfl, rfl, rfl⟩
      exact hwork.trans (ih _ (hscript _) _)
  | find classId inst next ih => exact ih _ (hscript _) ctx
  | create active classId inst data avc next ih => exact hscript.1.elim
  | delete classId inst next ih => exact hscript.1.elim

/-- The handlers of the class make no calls. -/
structure MeClass.NoCalls (cls : MeClass ω) : Prop where
  init : ∀ init, cls.init = some init → ∀ me inst data avc,
    (init me inst data avc).Only fun _ => False
  shutdown : ∀ shutdown, cls.shutdown = some shutdown → ∀ me inst,
    (shutdown me inst).Only fun _ => False

/-- There is nothing to undo for a class whose handlers make no calls. -/
theorem MeClass.NoCalls.undone {table : ClassTable ω} {cls : MeClass ω} (hcalls : cls.NoCalls)
    (ctx : Context ω) (active : Bool) (ref : MeRef) (inst : InstanceId)
    (data : Option (List Byte)) (avc : AttrMask) :
    ctx.SameMib (callShutdown table (mibCalls table) cls active ref inst
      (initialise table cls ctx active inst data avc).1) := by
  have hnew : ctx.SameMib (acquired cls ctx).newMe := by
    obtain ⟨⟨hlist, hcount, hpm⟩, _⟩ := meResources_onlySupply cls ctx
    exact ⟨hlist, hcount, hpm⟩
  have hinit : ctx.SameMib (initialise table cls ctx active inst data avc).1 := by
    rw [initialise, callInit]
    split
    · rename_i init hinit
      split
      · exact hnew.trans (Script.run_sameMib (hcalls.init init hinit _ _ _ _) _)
      · exact hnew
    · exact hnew
  rw [callShutdown]
  split
  · rename_i shutdown hshutdown
    split
    · exact hinit.trans (Script.run_sameMib (hcalls.shutdown shutdown hshutdown _ _) _)
    · exact hinit
  · exact hinit

theorem pmMeAdd_success_iff (cls : MeClass ω) (ref : MeRef) (ctx : Context ω) :
    (pmMeAdd cls ref ctx).2 = .success ↔
      (hasProp cls.prop MeProp.pmInternal = true → ctx.supply .pmListEntry 0 = true) := by
  by_cases hinternal : hasProp cls.prop MeProp.pmInternal = true
  · cases hgranted : ctx.supply .pmListEntry 0 <;>
      simp [pmMeAdd, Context.request, hinternal, hgranted]
  · simp [pmMeAdd, hinternal]

section Atomic

variable {table : ClassTable ω} {cls : MeClass ω} {ctx : Context ω} {active : Bool}
  {inst : InstanceId} {data : Option (List Byte)} {avc : AttrMask}

theorem granted_of_acquireAll {ctx' : Context ω}
    (hacquire : acquireAll (meResources cls) ctx = (ctx', none)) :
    Granted cls ctx ∧ ¬ DataDenied cls ctx ∧ acquired cls ctx = ctx' := by
  refine ⟨?_, ?_, ?_⟩
  · rw [← acquireAll_eq_none_iff, hacquire]
  · rw [← acquireAll_eq_success_iff, hacquire]
    exact nofun
  · rw [acquired, hacquire]

theorem createAtomic_none_iff {classId : ClassId} {ctx' : Context ω} {err : OmciError} :
    CreateAtomic ctx classId inst (ctx', err, none) ↔ err ≠ .success ∧ ctx.SameMib ctx' := by
  constructor
  · intro hatomic
    have herr : err ≠ .success := by
      intro hsuccess
      obtain ⟨ref, hsome, _⟩ := hatomic.success.mp hsuccess
      cases hsome
    exact ⟨herr, hatomic.failure herr⟩
  · rintro ⟨herr, hsame⟩
    refine ⟨⟨fun hsuccess => absurd hsuccess herr, ?_⟩, fun _ => hsame⟩
    rintro ⟨ref, hsome, _⟩
    cases hsome

theorem not_createAtomic_of_mem {classId : ClassId} {ctx' : Context ω} {err : OmciError}
    {me : Option MeRef} (hfresh : ctx.Fresh classId inst) (herr : err ≠ .success)
    (hkey : inst.toNat ∈ (ctx'.meList classId).map MeEntry.key) :
    ¬ CreateAtomic ctx classId inst (ctx', err, me) := by
  intro hatomic
  obtain ⟨entry, hentry, hinst⟩ := List.mem_map.mp hkey
  have hsame := (hatomic.failure herr).meList
  rw [hsame] at hentry
  exact hfresh entry hentry hinst

/-- Denied before the init handler: atomic unless it was the data. -/
theorem createAtomic_denied_iff {ctx' : Context ω} {code : OmciError}
    (hacquire : acquireAll (meResources cls) ctx = (ctx', some code)) :
    CreateAtomic ctx cls.classId inst (ctx', code, none) ↔
      CreateSafe table cls ctx active inst data avc := by
  have hnotGranted : ¬ Granted cls ctx := by
    rw [← acquireAll_eq_none_iff, hacquire]
    exact nofun
  have hdenied : DataDenied cls ctx ↔ code = .success := by
    rw [← acquireAll_eq_success_iff, hacquire, Option.some_inj]
  have hsame : ctx.SameMib ctx' := by
    have honly := (meResources_onlySupply cls ctx).1
    rwa [hacquire] at honly
  rw [createAtomic_none_iff]
  constructor
  · rintro ⟨hcode, _⟩
    exact ⟨fun hdata => hcode (hdenied.mp hdata), fun h => absurd h hnotGranted,
      fun h => absurd h hnotGranted⟩
  · intro hsafe
    exact ⟨fun hcode => hsafe.meData (hdenied.mpr hcode), hsame⟩

/-- The init handler fails: atomic if the shutdown handler undoes what it did. -/
theorem createAtomic_initFailed_iff {after : Context ω} {err : OmciError}
    (hgranted : Granted cls ctx) (hdata : ¬ DataDenied cls ctx)
    (hinit : initialise table cls ctx active inst data avc = (after, err)) (herr : err ≠ .success) :
    CreateAtomic ctx cls.classId inst
        (callShutdown table (mibCalls table) cls active (acquired cls ctx).nextRef inst after,
          err, none) ↔
      CreateSafe table cls ctx active inst data avc := by
  rw [createAtomic_none_iff]
  constructor
  · rintro ⟨_, hsame⟩
    refine ⟨hdata, fun _ _ => ?_, fun _ hsuccess => ?_⟩
    · rw [hinit]
      exact hsame
    · rw [hinit] at hsuccess
      exact absurd hsuccess herr
  · intro hsafe
    have hundone := hsafe.undone hgranted (by rw [hinit]; exact herr)
    rw [hinit] at hundone
    exact ⟨herr, hundone⟩

/-- Each way creation can end is atomic exactly when it is none of the three
situations. -/
theorem MeCreated.atomic_iff (hcls : cls ∈ table.classes) (hinv : MibInv table ctx)
    (hfresh : ctx.Fresh cls.classId inst) {result : Context ω × OmciError × Option MeRef}
    (h : MeCreated table (mibCalls table) cls ctx active inst data avc result) :
    CreateAtomic ctx cls.classId inst result ↔
      CreateSafe table cls ctx active inst data avc := by
  have hops := mibCalls_keeps table
  cases h with
  | denied hacquire => exact createAtomic_denied_iff hacquire
  | initFailed hacquire hinit herr =>
      obtain ⟨hgranted, hdata, rfl⟩ := granted_of_acquireAll hacquire
      exact createAtomic_initFailed_iff hgranted hdata hinit herr
  | @created ctx' after linked hacquire hinit hpm =>
      obtain ⟨hgranted, hdata, rfl⟩ := granted_of_acquireAll hacquire
      have hresult : initialise table cls ctx active inst data avc = (after, .success) := hinit
      have hadd := pmMeAdd_success_iff cls (acquired cls ctx).nextRef
        (after.link cls ⟨(acquired cls ctx).nextRef, inst, active, true⟩)
      have hlist := (pmMeAdd_lists cls (acquired cls ctx).nextRef
        (after.link cls ⟨(acquired cls ctx).nextRef, inst, active, true⟩)).1
      rw [hpm, link_meList] at hlist
      rw [hpm] at hadd
      have hholds : linked.Holds cls.classId inst (acquired cls ctx).nextRef := by
        refine ⟨⟨(acquired cls ctx).nextRef, inst, active, true⟩, ?_, rfl, rfl, rfl⟩
        rw [hlist, Function.update_self, mem_mibMeAddToClassEntry]
        exact Or.inl rfl
      constructor
      · intro _
        refine ⟨hdata, fun _ herr => ?_, fun _ _ => ?_⟩
        · rw [hresult] at herr
          exact absurd rfl herr
        · rw [hresult]
          exact hadd.mp rfl
      · intro _
        exact ⟨⟨fun _ => ⟨_, rfl, hholds⟩, fun _ => rfl⟩, fun herr => absurd rfl herr⟩
  | @pmDenied ctx' after linked err hacquire hinit hpm herr =>
      have hlink := link_kept_of_acquired hops hcls hinv hfresh hacquire hinit
      have hlinked : Kept table (table.Slave cls.classId) _ linked := pmMeAdd_kept hlink.inv hpm
      have hshutdown := callShutdown_kept hops hcls active ctx'.nextRef inst hlinked.inv
      have hlist := (hlinked.trans hshutdown).confined _ (table.not_slave_self cls.classId)
      obtain ⟨hgranted, hdata, rfl⟩ := granted_of_acquireAll hacquire
      have hresult : initialise table cls ctx active inst data avc = (after, .success) := hinit
      constructor
      · -- the freed record is still in the list
        intro hatomic
        apply absurd hatomic
        apply not_createAtomic_of_mem hfresh herr
        rw [freeLinked_meList, Function.update_self, map_freeLinked_key, hlist, link_meList,
          Function.update_self]
        apply List.mem_map.mpr
        exact ⟨_, (mem_mibMeAddToClassEntry _ _ _).mpr (Or.inl rfl), rfl⟩
      · intro hsafe
        have hadd := pmMeAdd_success_iff cls (acquired cls ctx).nextRef
          (after.link cls ⟨(acquired cls ctx).nextRef, inst, active, true⟩)
        rw [hpm] at hadd
        apply absurd (hadd.mpr _) herr
        intro hinternal
        have hentry := hsafe.pmListEntry hgranted (by rw [hresult]) hinternal
        rwa [hresult] at hentry

/-- `mib_me_create` is atomic exactly when none of the three situations arises. -/
theorem mibMeCreate_atomic_iff (hinv : MibInv table ctx) (active : Bool) (classId : ClassId)
    (inst : InstanceId) (data : Option (List Byte)) (avc : AttrMask) :
    CreateAtomic ctx classId inst (mibMeCreate table ctx active classId inst data avc) ↔
      ∀ cls, table.classEntryFind classId = some cls → ctx.Fresh classId inst →
        CreateSafe table cls ctx active inst data avc := by
  rw [mibMeCreate_eq, mibMeCreateWith]
  have hunchanged {err : OmciError} (herr : err ≠ .success) :
      CreateAtomic ctx classId inst (ctx, err, none) :=
    createAtomic_none_iff.mpr ⟨herr, SameMib.refl ctx⟩
  cases hfind : mibMeFind table ctx classId inst with
  | ok ref =>
      obtain ⟨entry, hentry, rfl, _⟩ := (hinv.mibMeFind_iff classId inst ref).mp hfind
      constructor
      · intro _ cls _ hfresh
        exact absurd rfl (hfresh entry hentry)
      · intro _
        exact hunchanged (fun h => by cases h)
  | error err =>
      cases hclass : table.classEntryFind classId with
      | none =>
          constructor
          · intro _ cls hsome
            cases hsome
          · intro _
            exact hunchanged (fun h => by cases h)
      | some cls =>
          obtain ⟨hcls, rfl⟩ := ClassTable.classEntryFind_eq_some hclass
          have hfresh := fresh_of_mibMeFind hinv hclass hfind
          have hcreated : MeCreated table (mibCalls table) cls ctx active inst data avc _ :=
            meCreate_created ctx active inst data avc
          have hiff := hcreated.atomic_iff hcls hinv hfresh
          constructor
          · intro hatomic cls' hcls' _
            cases hcls'
            exact hiff.mp hatomic
          · intro hsafe
            exact hiff.mpr (hsafe cls rfl hfresh)

end Atomic

/-! ## The GAL Ethernet profile -/

theorem meGalEthernetProfileClass_noCalls : meGalEthernetProfileClass.NoCalls where
  init _ hinit _ _ _ _ := by
    cases hinit
    trivial
  shutdown _ hshutdown _ _ := by
    cases hshutdown
    trivial

/-- With all requests granted, creating a GAL Ethernet profile is atomic. -/
theorem galEthernetProfile_createAtomic :
    CreateAtomic (Context.empty (fun _ _ => true) blankStore) 272 1
      (mibMeCreate sampleTable (Context.empty (fun _ _ => true) blankStore) true 272 1
        (some [0, 48]) 0) := by
  apply (mibMeCreate_atomic_iff (mibInv_empty _ _ _) _ _ _ _ _).mpr
  intro cls hclass _
  cases hclass
  constructor
  · intro hdenied
    cases hdenied.denied
  · intro _ _
    exact meGalEthernetProfileClass_noCalls.undone _ _ _ _ _ _
  · intro _ _ hinternal
    exact absurd hinternal (by decide)

/-- With the request for its data denied, creation returns success without an
entity. -/
theorem galEthernetProfile_not_createAtomic :
    ¬ CreateAtomic (Context.empty (fun resource _ => resource != .meData) blankStore) 272 1
      (mibMeCreate sampleTable
        (Context.empty (fun resource _ => resource != .meData) blankStore) true 272 1
        (some [0, 48]) 0) := by
  intro hatomic
  obtain ⟨ref, hsome, _⟩ := hatomic.success.mp rfl
  cases hsome

end FalconGpon.Omci
