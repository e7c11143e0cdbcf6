/-
# Some classes of the class table

Entries of `me_def_class_array` as their files under `me/` define them, on top of a
driver that accepts every call and has nothing new to report. Of the action tables
they have the handlers modelled here.
-/

import FalconGpon.Omci.Mib

namespace FalconGpon.Omci

open FalconGpon.Lib

/-- The attributes of a packed structure: each begins where the one before ends. The
rest of the table is `ATTR_NOT_DEF`. -/
def packedAttrs {ω : Type} (fields : List (Nat × AttrProp × Option (GetHandler ω)))
    (attr : Attr) : MeAttr ω :=
  match fields[attr.val]? with
  | some (size, prop, get) => ⟨((fields.take attr.val).map Prod.fst).sum, size, prop, get⟩
  | none => ⟨0, 0, AttrProp.none, none⟩

/-- The get handler of an attribute if no other one is used. -/
theorem packedAttrs_get {ω : Type} {fields : List (Nat × AttrProp × Option (GetHandler ω))}
    {handler : GetHandler ω}
    (hall : ∀ field ∈ fields, field.2.2 = some handler ∨ field.2.2 = none) {attr : Attr}
    {get : GetHandler ω} (hget : (packedAttrs fields attr).get = some get) : handler = get := by
  rw [packedAttrs] at hget
  split at hget
  · rename_i size prop fieldGet hfield
    rcases hall _ (List.mem_of_getElem? hfield) with hsome | hnone
    · exact Option.some.inj (hsome.symm.trans hget)
    · cases hnone.symm.trans hget
  · cases hget

def meActions {ω : Type} (handlers : List (Byte × MeAction ω)) (mt : Byte) : Option (MeAction ω) :=
  handlers.lookup mt

def oltActions {ω : Type} : Byte → Option (MeAction ω) :=
  meActions [(mtCreate, .create), (mtDelete, .delete), (mtSet, .set), (mtGet, .get)]

/-- Those of PM entities; `get_current_data_action_handle` is another GET. -/
def pmActions {ω : Type} : Byte → Option (MeAction ω) :=
  meActions [(mtCreate, .create), (mtDelete, .delete), (mtSet, .set), (mtGet, .get), (28, .get)]

def GetHandler.upToDate : GetHandler Unit where
  run _ _ buff := (.success, buff)
  length _ _ _ := rfl

/-- `gem_block_len_get`, where the driver uses blocks of 48 bytes. -/
def GetHandler.gemBlockLen : GetHandler Unit where
  run _ _ buff := (.success, if buff.length = 2 then [0, 48] else buff)
  length _ _ buff := by
    dsimp only
    split
    · rename_i hlength
      rw [hlength]
      rfl
    · rfl

/-- Store the initial data of a new entity, as `me_data_write` does. -/
def initWrite (ref : MeRef) (data : List Byte) : Script Unit :=
  .work (fun store =>
      let me := store.me ref
      (store.setMe ref { me with buffer := fun _ => patch me.bytes 0 data }, .success))
    .done

/-- `default_me_validate`, for attributes without limits. -/
def acceptAll : ValidateHandler Unit := fun _ _ => (.success, 0)

def updateDriver : UpdateHandler Unit := fun _ store data _ => (store, .success, data)

open AttrProp in
/-- `me_gal_ethernet_profile_class`. -/
def meGalEthernetProfileClass : MeClass Unit where
  classId := 272
  attrs := packedAttrs [(2, rd ||| wr ||| sbc, none)]
  actions := oltActions
  init := some fun _ _ _ _ => .done .success
  shutdown := some fun _ _ => .done .success
  validate := some acceptAll
  update := some updateDriver
  countersGet := .none
  thrSet := .none
  dataSize := 2
  prop := 0x8000

open AttrProp in
/-- `me_pptp_ethernet_uni_class`. -/
def mePptpEthernetUniClass : MeClass Unit where
  classId := 11
  attrs := packedAttrs
    [(1, rd ||| wr, none), (1, rd ||| avc, some .upToDate), (1, rd ||| wr, none),
      (1, rd ||| wr, none), (1, rd ||| wr, none), (1, rd ||| avc, some .upToDate),
      (1, rd, some .upToDate), (2, rd ||| wr, none), (1, rd ||| wr, none),
      (2, rd ||| wr, none), (1, rd ||| wr, none), (1, rd ||| wr ||| avc, none),
      (1, rd ||| wr, none), (1, rd ||| wr, none), (1, rd ||| wr, none)]
  actions := meActions [(mtSet, .set), (mtGet, .get)]
  init := some fun me _ initData _ =>
    match initData with
    | .none => .done .invalidPtr
    | some data => initWrite me data
  shutdown := some fun _ _ => .done .success
  validate := some acceptAll
  update := some updateDriver
  countersGet := .none
  thrSet := .none
  dataSize := 17
  prop := MeProp.hasAlarms ||| MeProp.hasArc ||| 0x8000

open AttrProp in
/-- `me_ethernet_ds_pmhd_class`. -/
def meEthernetDsPmhdClass : MeClass Unit where
  classId := 321
  attrs := packedAttrs
    ((1, rd, some .upToDate) :: (2, rd ||| wr ||| sbc, none) ::
      List.replicate 14 (4, rd, none))
  actions := pmActions
  init := some fun _ instanceId _ _ =>
    .find 11 instanceId fun uni =>
      match uni with
      | some _ => .done .success
      | .none => .done .meNotFound
  shutdown := some fun _ _ => .done .success
  validate := some acceptAll
  update := some updateDriver
  countersGet := some fun _ _ store => store
  thrSet := some fun _ _ store => store
  dataSize := 59
  prop := MeProp.pm ||| MeProp.pmInternal ||| MeProp.hasAlarms ||| 0x8000

open AttrProp in
/-- `me_ip_host_monitoring_data_class`. -/
def meIpHostMonitoringDataClass : MeClass Unit where
  classId := 135
  attrs := packedAttrs
    [(1, rd, some .upToDate), (2, rd ||| wr ||| sbc, none), (4, rd, none), (4, rd, none),
      (2, rd, none), (2, rd, none), (2, rd, none), (2, rd, none)]
  actions := pmActions
  init := some fun me instanceId initData _ =>
    .find 134 instanceId fun ipHost =>
      match ipHost with
      | some _ => initWrite me (initData.getD (List.replicate 19 0))
      | .none => .done .meNotFound
  shutdown := .none
  validate := some acceptAll
  update := some updateDriver
  countersGet := some fun _ _ store => store
  thrSet := some fun _ _ store => store
  dataSize := 19
  prop := MeProp.pm ||| MeProp.pmInternal ||| 0x8000

open AttrProp in
/-- `me_onu_loop_detection_class`, without its init handler: that hands 19 of the 40 bytes
to `me_data_write`, which an assertion there rejects, so only inactive entities exist. -/
def meOnuLoopDetectionClass : MeClass Unit where
  classId := 65528
  attrs := packedAttrs
    [(4, rd ||| wr ||| sbc, none), (2, rd ||| wr, none), (2, rd ||| wr, none),
      (2, rd ||| wr, none), (2, rd ||| wr, none), (28, rd ||| wr, none)]
  actions := oltActions
  init := .none
  shutdown := .none
  validate := some acceptAll
  update := some updateDriver
  countersGet := .none
  thrSet := .none
  dataSize := 40
  prop := MeProp.hasAlarms

open AttrProp in
/-- `me_onu_data_class`. -/
def meOnuDataClass : MeClass Unit where
  classId := 2
  attrs := packedAttrs [(1, rd ||| wr, none)]
  actions := meActions
    [(mtSet, .set), (mtGet, .get), (mtGetAllAlarms, .getAllAlarms),
      (mtGetAllAlarmsNext, .getAllAlarmsNext), (mtMibUpload, .mibUpload),
      (mtMibUploadNext, .mibUploadNext), (mtMibReset, .mibReset)]
  init := some fun me _ initData _ => initWrite me (initData.getD [0])
  shutdown := .none
  validate := .none
  update := some updateDriver
  countersGet := .none
  thrSet := .none
  dataSize := 1
  prop := 0x8000

open AttrProp in
/-- `me_ani_g_class`. -/
def meAniGClass : MeClass Unit where
  classId := 263
  attrs := packedAttrs
    [(1, rd, some .upToDate), (2, rd, some .upToDate), (2, rd ||| wr, some .gemBlockLen),
      (1, rd, none), (1, rd, none), (1, rd ||| wr, none), (1, rd ||| wr, none),
      (1, rd ||| wr ||| avc, none), (1, rd ||| wr, none), (2, rd, some .upToDate),
      (1, rd ||| wr, none), (1, rd ||| wr, none), (2, rd, some .upToDate),
      (2, rd, some .upToDate), (1, rd ||| wr, none), (1, rd ||| wr, none)]
  actions := meActions [(mtSet, .set), (mtGet, .get)]
  init := some fun me _ initData _ =>
    match initData with
    | .none => .done .invalidPtr
    | some data => initWrite me data
  shutdown := some fun _ _ => .done .success
  validate := some acceptAll
  update := some updateDriver
  countersGet := .none
  thrSet := .none
  dataSize := 21
  prop := MeProp.hasAlarms ||| MeProp.hasArc ||| 0x8000

/-- None of these classes has slaves. -/
def sampleTable : ClassTable Unit where
  classes := [meGalEthernetProfileClass, mePptpEthernetUniClass, meEthernetDsPmhdClass,
    meOnuLoopDetectionClass, meOnuDataClass, meAniGClass]
  nodup := by decide
  rank _ := 0
  initSlaves := by
    intro cls hcls init hinit me inst data avc
    simp only [List.mem_cons, List.not_mem_nil, or_false] at hcls
    rcases hcls with rfl | rfl | rfl | rfl | rfl | rfl
    · cases hinit
      trivial
    · cases hinit
      cases data with
      | none => trivial
      | some data => exact fun _ => trivial
    · cases hinit
      intro uni
      cases uni <;> trivial
    · cases hinit
    · cases hinit
      exact fun _ => trivial
    · cases hinit
      cases data with
      | none => trivial
      | some data => exact fun _ => trivial
  shutdownSlaves := by
    intro cls hcls shutdown hshutdown me inst
    simp only [List.mem_cons, List.not_mem_nil, or_false] at hcls
    rcases hcls with rfl | rfl | rfl | rfl | rfl | rfl <;> cases hshutdown <;> trivial

/-- `mib_create` accepts these classes. -/
example : sampleTable.classes.all MeClass.isAccepted = true := by decide

/-- The store before anything was created. -/
def blankStore : Store Unit where
  me _ := .blank
  meList _ := []
  outer := ()

def singleMe (active : Bool) (classId : ClassId) (inst : InstanceId) : Context Unit :=
  (mibMeCreate sampleTable (Context.empty (fun _ _ => true) blankStore) active classId inst
    (some [0, 48]) 0).1

end FalconGpon.Omci
