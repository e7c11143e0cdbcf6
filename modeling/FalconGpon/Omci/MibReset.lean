/-
# Resetting the MIB

`mib_reset`, `mib_destroy`, the MIB sequence number in the ONU data entity and
`mib_create`. A reset destroys the MIB, lets `mib_on_reset` load the MIB template,
creates the entity of the LCT port and takes a new upload copy, unless nothing seems
to have changed since the last one.

`mib_on_reset` comes with the daemon as a callback, so it is a `Script` of the
configuration.
-/

import FalconGpon.Omci.MibCopy

namespace FalconGpon.Omci

open FalconGpon.Lib

variable {ω : Type}

/-- `OMCI_ME_ONU_DATA`. -/
def omciMeOnuData : ClassId := 2

/-- `OMCI_ME_PPTP_ETHERNET_UNI`. -/
def omciMePptpEthernetUni : ClassId := 11

/-- `OMCI_ME_PPTP_LCT_UNI`. -/
def omciMePptpLctUni : ClassId := 83

/-- What does not change after `omci_init`. -/
structure Config (ω : Type) where
  table : ClassTable ω
  /-- `mib_on_reset`. -/
  onReset : Script ω
  /-- `lct_port`; 255 if there is none. -/
  lctPort : Byte
  /-- `omci_api_mapper_reset`. -/
  mapperReset : ω → ω

/-- The part of `struct omci_context` that a reset works on. -/
structure OmciContext (ω : Type) where
  mib : Context ω
  mibCopy : MibCopy
  mibResetInProgress : Bool

/-- What a reset leaves behind. -/
structure ResetResult (ω : Type) where
  context : OmciContext ω
  error : OmciError
  /-- It called `retransmit_flush`. -/
  flushed : Bool

/-! ## The MIB sequence number -/

/-- `mib_seq_num_get`. -/
def mibSeqNumGet (table : ClassTable ω) (ctx : Context ω) : Except OmciError Byte :=
  (mibMeFind table ctx omciMeOnuData 0).map fun me => (ctx.store.me me).bytes 0

/-- Change `mib_data_sync`, the first byte of the ONU data entity. -/
def mibSeqNumModify (table : ClassTable ω) (change : Byte → Byte) (ctx : Context ω) :
    Context ω × OmciError :=
  match mibMeFind table ctx omciMeOnuData 0 with
  | .ok me =>
      ({ ctx with store := ctx.store.modify me fun data => patch data 0 [change (data 0)] },
        .success)
  | .error err => (ctx, err)

/-- `mib_seq_num_clear`. -/
def mibSeqNumClear (table : ClassTable ω) : Context ω → Context ω × OmciError :=
  mibSeqNumModify table fun _ => 0

/-! ## mib_reset -/

/-- The loop of `mib_destroy` over the list of one class, bounded by its length. -/
def mibDestroyList (table : ClassTable ω) (classId : ClassId) : Nat → Context ω → Context ω
  | 0, ctx => ctx
  | bound + 1, ctx =>
      match ctx.meList classId with
      | [] => ctx
      | entry :: _ =>
          mibDestroyList table classId bound (mibMeDelete table ctx classId entry.instanceId).1

def mibDestroyClass (table : ClassTable ω) (ctx : Context ω) (cls : MeClass ω) : Context ω :=
  (mibDestroyList table cls.classId (ctx.meList cls.classId).length ctx).setMeList cls.classId []

/-- `mib_destroy`; every class of the definition array is found. -/
def mibDestroy (config : Config ω) (ctx : Context ω) : Context ω :=
  let ctx := config.table.classes.foldl (mibDestroyClass config.table) ctx
  { ctx with store := { ctx.store with outer := config.mapperReset ctx.store.outer } }

/-- The entity `mib_lct_create` walks to. -/
def lctUni (lctPort : Byte) (list : List MeEntry) : Option MeEntry :=
  if lctPort = 0 then none else list[lctPort.toNat - 1]?

/-- `mib_lct_create`. -/
def mibLctCreate (config : Config ω) (ctx : Context ω) : Context ω × OmciError :=
  match config.table.classEntryFind omciMePptpEthernetUni with
  | none => (ctx, .meNotFound)
  | some _ =>
      match lctUni config.lctPort (ctx.meList omciMePptpEthernetUni) with
      | none => (ctx, .meNotFound)
      | some uni =>
          let (ctx, err, _) :=
            mibMeCreate config.table ctx true omciMePptpLctUni uni.instanceId none 0
          (ctx, err)

/-- What `mib_reset` makes of the MIB when it rebuilds it, up to the copy; the error is
that of `mib_on_reset`. -/
def mibRebuild (config : Config ω) (ctx : Context ω) : Context ω × OmciError :=
  let ctx := mibDestroy config ctx
  let ctx := (mibSeqNumClear config.table ctx).1
  let (ctx, err) := config.onReset.run config.table (mibCalls config.table) ctx
  let ctx := if config.lctPort = 0xff then ctx else (mibLctCreate config ctx).1
  (ctx, err)

/-- `mib_reset` rebuilds the MIB; `seq` stays zero if there is no ONU data entity. -/
def resetNeeded (config : Config ω) (force : Bool) (context : OmciContext ω) : Bool :=
  force || (mibSeqNumGet config.table context.mib).toOption.getD 0 != 0 ||
    context.mibCopy.num == 0

/-- `mib_reset`. -/
def mibReset (config : Config ω) (force : Bool) (context : OmciContext ω) : ResetResult ω :=
  if context.mibResetInProgress then ⟨context, .success, false⟩
  else if resetNeeded config force context then
    let (mib, err) := mibRebuild config context.mib
    let (mib, copy, _) := mibCopy config.table mib
    ⟨{ context with mib := mib, mibCopy := copy }, err, true⟩
  else
    match mibSeqNumGet config.table context.mib with
    | .ok _ => ⟨context, .success, true⟩
    | .error err => ⟨context, err, true⟩

/-- The context with `mib` zeroed. -/
def Context.cleared (ctx : Context ω) : Context ω :=
  { ctx with meList := fun _ => [], meCount := 0 }

/-- `mib_create`: nothing is created if a class is not accepted. -/
def mibCreate (config : Config ω) (context : OmciContext ω) : ResetResult ω :=
  let context := { context with mib := context.mib.cleared }
  if config.table.classes.all MeClass.isAccepted then mibReset config true context
  else ⟨context, .error, false⟩

/-! ## What a reset keeps -/

section Kept

open Context

variable {table : ClassTable ω}

abbrev Context.KeptAll (table : ClassTable ω) (ctx ctx' : Context ω) : Prop :=
  Kept table (fun _ => True) ctx ctx'

/-- The MIB functions change the supply and the store of a context, and no list. -/
structure Context.SameLists (ctx ctx' : Context ω) : Prop where
  same : ctx.SameMib ctx'
  granted : ctx.PmGranted → ctx'.PmGranted

theorem Context.SameLists.refl (ctx : Context ω) : ctx.SameLists ctx := ⟨.refl ctx, id⟩

theorem Context.SameLists.trans {first second third : Context ω}
    (h : first.SameLists second) (h' : second.SameLists third) : first.SameLists third :=
  ⟨h.same.trans h'.same, h'.granted ∘ h.granted⟩

theorem Context.SameLists.request (ctx : Context ω) (resource : Resource) :
    ctx.SameLists (ctx.request resource).1 :=
  ⟨⟨rfl, rfl, rfl⟩, fun h => h.request resource⟩

theorem Context.SameLists.withStore (ctx : Context ω) (store : Store ω) :
    ctx.SameLists { ctx with store := store } :=
  ⟨⟨rfl, rfl, rfl⟩, id⟩

variable {ctx : Context ω}

theorem Context.SameLists.kept {classes : ClassId → Prop} {ctx' : Context ω}
    (h : ctx.SameLists ctx') (hinv : MibInv table ctx) : Kept table classes ctx ctx' :=
  .of_sameLists hinv h.same.meList h.same.meCount h.granted

theorem mibSeqNumModify_sameLists (table : ClassTable ω) (change : Byte → Byte) (ctx : Context ω) :
    ctx.SameLists (mibSeqNumModify table change ctx).1 := by
  rw [mibSeqNumModify]
  split
  · apply Context.SameLists.withStore
  · apply Context.SameLists.refl

/-- The context at the end of a walk in `Except`, whether it fails or not. -/
def Packing.EndsIn (kept : Context ω → Prop) (result : Except (Packing ω) (Packing ω)) : Prop :=
  match result with
  | .ok packing => kept packing.ctx
  | .error packing => kept packing.ctx

section EndsIn

variable {kept : Context ω → Prop}

variable {packing : Packing ω}

theorem Packing.openEntry_endsIn
    (hrequest : ∀ ctx resource, kept ctx → kept (ctx.request resource).1) (h : kept packing.ctx)
    (classId : ClassId) (inst : InstanceId) :
    Packing.EndsIn kept (packing.openEntry classId inst) := by
  have hnext := hrequest packing.ctx .mibCopyEntry h
  rw [Packing.openEntry]
  split
  · rename_i ctx heq
    simp only at heq
    rw [heq] at hnext
    exact hnext
  · rename_i ctx heq
    simp only at heq
    rw [heq] at hnext
    exact hnext

theorem packAttr_endsIn (hrequest : ∀ ctx resource, kept ctx → kept (ctx.request resource).1)
    (cls : MeClass ω) (inst : InstanceId) (data : Buffer) (h : kept packing.ctx) (attr : Attr) :
    Packing.EndsIn kept (packAttr cls inst data packing attr) := by
  have hopen := packing.openEntry_endsIn hrequest h cls.classId inst
  rw [packAttr]
  split
  · exact h
  · split
    · exact h
    · split
      · split
        · rename_i packing' heq
          rw [heq] at hopen
          exact hopen
        · rename_i packing' heq
          rw [heq] at hopen
          exact hopen
      · exact h

/-- A walk keeps what its steps keep. -/
theorem Packing.foldlM_endsIn {α : Type} {step : Packing ω → α → Except (Packing ω) (Packing ω)}
    {xs : List α} (hstep : ∀ x ∈ xs, ∀ packing : Packing ω, kept packing.ctx →
      Packing.EndsIn kept (step packing x)) (h : kept packing.ctx) :
    Packing.EndsIn kept (xs.foldlM step packing) := by
  induction xs generalizing packing with
  | nil => exact h
  | cons x xs ih =>
      have hfirst := hstep x List.mem_cons_self packing h
      rw [List.foldlM_cons]
      cases hnext : step packing x with
      | error packing' =>
          rw [hnext] at hfirst
          exact hfirst
      | ok packing' =>
          rw [hnext] at hfirst
          exact ih (fun x hx => hstep x (List.mem_cons_of_mem _ hx)) hfirst

theorem packMe_endsIn (hrequest : ∀ ctx resource, kept ctx → kept (ctx.request resource).1)
    {me : MeClass ω × MeEntry} (h : kept packing.ctx)
    (hread : kept { packing.ctx with
      store := (meDataRead me.1 me.2.ref .curr packing.ctx.store).1 }) :
    Packing.EndsIn kept (packMe packing me) := by
  obtain ⟨cls, entry⟩ := me
  rw [packMe]
  split
  · exact h
  · dsimp only at hread ⊢
    generalize meDataRead cls entry.ref .curr packing.ctx.store = result at hread
    obtain ⟨store, err, data⟩ := result
    have hattrs : Packing.EndsIn kept ((List.finRange 16).foldlM (packAttr cls entry.instanceId data)
        { packing with ctx := { packing.ctx with store := store }, sum := 0 }) :=
      Packing.foldlM_endsIn
        (fun attr _ packing h => packAttr_endsIn hrequest cls entry.instanceId data h attr) hread
    dsimp only
    split
    · rename_i last hfold
      rw [hfold] at hattrs
      exact hattrs
    · rename_i packed hfold
      rw [hfold] at hattrs
      have hensure : Packing.EndsIn kept (packed.ensureEntry cls.classId entry.instanceId) := by
        rw [Packing.ensureEntry]
        split
        · exact packed.openEntry_endsIn hrequest hattrs cls.classId entry.instanceId
        · exact hattrs
      split
      · rename_i last hlast
        rw [hlast] at hensure
        exact hensure
      · rename_i last hlast
        rw [hlast] at hensure
        exact hensure

/-- Taking a copy keeps what requests for entries and reading the entities keep. -/
theorem mibCopy_keeps (hrequest : ∀ ctx resource, kept ctx → kept (ctx.request resource).1)
    {ctx : Context ω} (hstart : kept { ctx with store := ctx.handlerStore })
    (hread : ∀ me ∈ table.entities ctx, ∀ ctx', kept ctx' →
      kept { ctx' with store := (meDataRead me.1 me.2.ref .curr ctx'.store).1 }) :
    kept (mibCopy table ctx).1 := by
  have hwalk : Packing.EndsIn kept ((table.entities ctx).foldlM packMe (Packing.start ctx)) :=
    Packing.foldlM_endsIn
      (fun me hme packing h => packMe_endsIn hrequest h (hread me hme packing.ctx h)) hstart
  rw [mibCopy]
  split
  · rename_i packing hfold
    rw [hfold] at hwalk
    exact hwalk
  · rename_i packing hfold
    rw [hfold] at hwalk
    exact hwalk

end EndsIn

theorem mibCopy_sameLists (ctx : Context ω) : ctx.SameLists (mibCopy table ctx).1 := by
  apply mibCopy_keeps
  · exact fun ctx' resource h => h.trans (.request ctx' resource)
  · exact .withStore ctx _
  · exact fun me _ ctx' h => h.trans (.withStore ctx' _)

/-- Deleting the first entry of a list leaves the rest of it. -/
theorem mibMeDelete_first (hinv : MibInv table ctx) {classId : ClassId}
    {entry : MeEntry} {rest : List MeEntry} (hlist : ctx.meList classId = entry :: rest) :
    (mibMeDelete table ctx classId entry.instanceId).1.meList classId = rest := by
  have hentry : entry ∈ ctx.meList classId := by rw [hlist]; exact List.mem_cons_self
  obtain ⟨cls, hclass⟩ := hinv.classEntryFind hentry
  obtain ⟨hcls, rfl⟩ := ClassTable.classEntryFind_eq_some hclass
  have hfirst : (ctx.meList cls.classId).find?
      (fun other => other.instanceId == entry.instanceId) = some entry := by
    rw [hlist]
    simp
  rw [mibMeDelete, mibMeDeleteWith, hclass]
  simp only [hfirst]
  have hremove : Kept table (table.Slave cls.classId) ctx (pmMeRemove cls entry.ref ctx) :=
    pmMeRemove_kept cls entry.ref hinv
  have hkept := hremove.trans (callShutdown_kept
    (mibOps_keeps table (table.rank cls.classId)) hcls entry.active entry.ref
    entry.instanceId hremove.inv)
  rw [Context.unlink_meList, Function.update_self,
    hkept.confined _ (table.not_slave_self _), hlist]
  exact List.erase_cons_head entry rest

/-- The loop over a list ends with the list empty. -/
theorem mibDestroyList_kept (classId : ClassId) (bound : Nat)
    (hinv : MibInv table ctx) (hbound : (ctx.meList classId).length ≤ bound) :
    KeptAll table ctx (mibDestroyList table classId bound ctx) ∧
      (mibDestroyList table classId bound ctx).meList classId = [] := by
  induction bound generalizing ctx with
  | zero =>
      have hempty : ctx.meList classId = [] := by simpa using hbound
      exact ⟨Kept.refl hinv, hempty⟩
  | succ bound ih =>
      rw [mibDestroyList]
      cases hlist : ctx.meList classId with
      | nil => exact ⟨Kept.refl hinv, hlist⟩
      | cons entry rest =>
          have hdelete : KeptAll table ctx (mibMeDelete table ctx classId entry.instanceId).1 :=
            (mibMeDelete_kept hinv classId entry.instanceId).mono fun _ _ => trivial
          have hrest := mibMeDelete_first hinv hlist
          have hbound' : rest.length ≤ bound := by
            rw [hlist, List.length_cons] at hbound
            omega
          obtain ⟨hloop, hempty⟩ := ih hdelete.inv (by rwa [hrest])
          exact ⟨hdelete.trans hloop, hempty⟩

theorem Context.setMeList_nil {classId : ClassId}
    (hempty : ctx.meList classId = []) : ctx.setMeList classId [] = ctx := by
  rw [Context.setMeList, ← hempty, Function.update_eq_self]

theorem mibDestroyClass_kept (cls : MeClass ω) (hinv : MibInv table ctx) :
    KeptAll table ctx (mibDestroyClass table ctx cls) := by
  obtain ⟨hkept, hempty⟩ := mibDestroyList_kept cls.classId _ hinv le_rfl
  rw [mibDestroyClass, Context.setMeList_nil hempty]
  exact hkept

theorem mibDestroyClasses_kept (classes : List (MeClass ω)) (hinv : MibInv table ctx) :
    KeptAll table ctx (classes.foldl (mibDestroyClass table) ctx) := by
  induction classes generalizing ctx with
  | nil => exact Kept.refl hinv
  | cons cls classes ih =>
      have hcls := mibDestroyClass_kept cls hinv
      exact hcls.trans (ih hcls.inv)

theorem Script.only_true (script : Script ω) : script.Only fun _ => True := by
  induction script with
  | done err => trivial
  | work handle next ih => exact fun err => ih err
  | find classId inst next ih => exact fun me => ih me
  | create active classId inst data avc next ih => exact ⟨trivial, fun err me => ih err me⟩
  | delete classId inst next ih => exact ⟨trivial, fun err => ih err⟩

variable {config : Config ω}

theorem mibDestroy_kept (hinv : MibInv config.table ctx) :
    KeptAll config.table ctx (mibDestroy config ctx) := by
  have hclasses := mibDestroyClasses_kept config.table.classes hinv
  apply hclasses.trans
  exact (Context.SameLists.withStore _ _).kept hclasses.inv

theorem mibLctCreate_kept (hinv : MibInv config.table ctx) :
    KeptAll config.table ctx (mibLctCreate config ctx).1 := by
  rw [mibLctCreate]
  split
  · exact Kept.refl hinv
  · split
    · exact Kept.refl hinv
    · exact (mibMeCreate_kept hinv _ _ _ _ _).mono fun _ _ => trivial

theorem mibRebuild_kept (hinv : MibInv config.table ctx) :
    KeptAll config.table ctx (mibRebuild config ctx).1 := by
  have hdestroy := mibDestroy_kept hinv
  have hclear := hdestroy.trans
    ((mibSeqNumModify_sameLists config.table (fun _ => 0) _).kept hdestroy.inv)
  have htemplate := hclear.trans
    (Script.run_kept (mibCalls_keeps config.table) (fun _ _ _ _ => trivial)
      config.onReset.only_true hclear.inv)
  rw [mibRebuild]
  dsimp only
  split
  · exact htemplate
  · exact htemplate.trans (mibLctCreate_kept htemplate.inv)

theorem mibReset_kept (force : Bool) {context : OmciContext ω}
    (hinv : MibInv config.table context.mib) :
    KeptAll config.table context.mib (mibReset config force context).context.mib := by
  rw [mibReset]
  split
  · exact Kept.refl hinv
  · split
    · have hrebuild := mibRebuild_kept hinv
      exact hrebuild.trans ((mibCopy_sameLists _).kept hrebuild.inv)
    · split <;> exact Kept.refl hinv

theorem mibInv_cleared (table : ClassTable ω) (ctx : Context ω) : MibInv table ctx.cleared where
  ascending _ := Ascending.nil
  known _ _ := rfl
  count := by simp [Context.cleared]

/-- `mib_create` leaves a well-formed MIB, whether it succeeds or fails. -/
theorem mibCreate_kept (context : OmciContext ω) :
    KeptAll config.table context.mib.cleared (mibCreate config context).context.mib := by
  have hinv := mibInv_cleared config.table context.mib
  have hreset (context' : OmciContext ω) (hmib : context'.mib = context.mib.cleared) :=
    mibReset_kept true (hmib ▸ hinv : MibInv config.table context'.mib)
  rw [mibCreate]
  split
  · exact hreset { context with mib := context.mib.cleared } rfl
  · exact Kept.refl hinv

/-- With the PM entries granted all its entities are alive besides. -/
theorem mibCreate_live {start : OmciContext ω} (hstart : start.mib.PmGranted) :
    MibInv config.table (mibCreate config start).context.mib ∧
      (mibCreate config start).context.mib.AllLive := by
  have hcreate : KeptAll config.table _ _ := mibCreate_kept start
  exact ⟨hcreate.inv, hcreate.live hstart fun _ _ hentry => by cases hentry⟩

end Kept

end FalconGpon.Omci
