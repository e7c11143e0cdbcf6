/-
# When the upload copy is a snapshot

The copy should carry every uploaded attribute of every uploadable entity once, with
its current value, in entries of at most 26 bytes. The attributes are packed so exactly
when each class present keeps its oversized attributes in front of those that take room.
The values are the current ones where the class keeps its attributes in the order of
the table, up to the first get handler that fails; a class without get handlers that
does not keep them so delivers other bytes.
-/

import FalconGpon.Omci.MibCopy
import FalconGpon.Omci.MibCreate
import FalconGpon.Omci.ReadSource

namespace FalconGpon.Omci

open FalconGpon.Lib Context

variable {ω : Type}

def MibCopyEntry.isFor (entry : MibCopyEntry) (me : MeClass ω × MeEntry) : Bool :=
  entry.classId == me.1.classId && entry.instanceId == me.2.instanceId

def MibCopyEntry.value (entry : MibCopyEntry) (cls : MeClass ω) (attr : Attr) : List Byte :=
  (entry.values.drop (cls.offsetIn entry.attrMask attr)).take (cls.attrs attr).size

/-- How the attributes should be packed. -/
structure WellPacked (table : ClassTable ω) (ctx : Context ω) (copy : MibCopy) : Prop where
  present : ∀ me ∈ table.entities ctx, me.1.isUploadable = true →
    ∃ entry ∈ copy.list, entry.isFor me = true
  once : ∀ me ∈ table.entities ctx, me.1.isUploadable = true → ∀ attr,
    me.1.isUploaded attr = true → (me.1.attrs attr).size ≤ mibUploadNextRspValuesSize →
    copy.list.countP (fun entry => entry.isFor me && entry.attrMask.has attr) = 1
  fits : ∀ entry ∈ copy.list, entry.values.length ≤ mibUploadNextRspValuesSize
  small : ∀ me ∈ table.entities ctx, me.1.isUploadable = true → ∀ attr,
    mibUploadNextRspValuesSize < (me.1.attrs attr).size →
    ∀ entry ∈ copy.list, entry.isFor me = true → entry.attrMask.has attr = false
  number : copy.num = copy.list.length

/-- What the copy should be. -/
structure Snapshot (table : ClassTable ω) (ctx : Context ω) (copy : MibCopy) : Prop
    extends WellPacked table ctx copy where
  current : ∀ me ∈ table.entities ctx, me.1.isUploadable = true → ∀ attr,
    me.1.isUploaded attr = true → (me.1.attrs attr).size ≤ mibUploadNextRspValuesSize →
    ∀ entry ∈ copy.list, entry.isFor me = true → entry.attrMask.has attr = true →
    entry.value me.1 attr = currentValue me.1 me.2.ref ctx.handlerStore attr

/-- In the classes present oversized attributes come before those that take room. -/
def Packable (table : ClassTable ω) (ctx : Context ω) : Prop :=
  ∀ me ∈ table.entities ctx, me.1.isUploadable = true →
    OversizeFirst (fun attr => (me.1.attrs attr).size) mibUploadNextRspValuesSize me.1.uploaded

/-- When the copy is a snapshot, in terms of what reading the entities yields. -/
structure CopySafe (table : ClassTable ω) (ctx : Context ω) : Prop where
  oversize : Packable table ctx
  read : ∀ read ∈ copyReads (table.entities ctx) ctx.handlerStore, ∀ attr,
    read.1.isUploaded attr = true → (read.1.attrs attr).size ≤ mibUploadNextRspValuesSize →
    read.1.attrValue attr read.2.2 = currentValue read.1 read.2.1.ref ctx.handlerStore attr

/-- An attribute in the copy has the current value: in a class that keeps the order, no get
handler in front of it fails, or its stored value is the current one; else the bytes are the same
where the attribute that is fetched last for them is looked for. -/
def ReadsCurrent (store : Store ω) (me : MeClass ω × MeEntry) (attr : Attr) : Prop :=
  let data := (store.me me.2.ref).bytes
  if me.1.laidOut then
    (∃ other < attr, me.1.GetFails me.2.ref store other) →
      me.1.attrValue attr data = currentValue me.1 me.2.ref store attr
  else me.1.InPlace data attr

/-! ## Entities have one key each -/

def meKey (me : MeClass ω × MeEntry) : ClassId × InstanceId :=
  (me.1.classId, me.2.instanceId)

variable {me : MeClass ω × MeEntry} {attr : Attr}

theorem MibCopyEntry.isFor_iff {entry : MibCopyEntry} :
    entry.isFor me = true ↔ (entry.classId, entry.instanceId) = meKey me := by
  simp [isFor, meKey]

section Keys

variable {table : ClassTable ω} {ctx : Context ω}

theorem ClassTable.mem_sorted {cls : MeClass ω} : cls ∈ table.sorted ↔ cls ∈ table.classes := by
  rw [ClassTable.sorted, List.mem_insertionSort]

theorem ClassTable.mem_entities :
    me ∈ table.entities ctx ↔ me.1 ∈ table.classes ∧ me.2 ∈ ctx.meList me.1.classId := by
  obtain ⟨cls, entry⟩ := me
  simp only [ClassTable.entities, List.mem_flatMap, List.mem_map, Prod.mk.injEq,
    ClassTable.mem_sorted]
  constructor
  · rintro ⟨cls', hcls', entry', hentry', rfl, rfl⟩
    exact ⟨hcls', hentry'⟩
  · rintro ⟨hcls, hentry⟩
    exact ⟨cls, hcls, entry, hentry, rfl, rfl⟩

/-- The keys of the entities are distinct. -/
theorem Context.MibInv.nodup_keys (hinv : MibInv table ctx) :
    ((table.entities ctx).map meKey).Nodup := by
  have hids : (table.sorted.map MeClass.classId).Nodup := by
    have hperm : (table.sorted.map MeClass.classId).Perm table.ids :=
      (List.perm_insertionSort _ _).map _
    exact hperm.nodup_iff.mpr table.nodup
  rw [ClassTable.entities, List.map_flatMap]
  apply List.nodup_flatMap.mpr
  constructor
  · intro cls _
    rw [List.map_map]
    apply (hinv.ascending cls.classId).nodup.map_on
    intro first hfirst second hsecond hkey
    have hinst : first.instanceId = second.instanceId := congrArg Prod.snd hkey
    apply (hinv.ascending cls.classId).eq_of_key_eq hfirst hsecond
    rw [MeEntry.key, MeEntry.key, hinst]
  · have hdistinct : table.sorted.Pairwise fun first second =>
        first.classId ≠ second.classId := List.pairwise_map.mp hids
    apply hdistinct.imp
    intro first second hne key hfirst hsecond
    simp only [List.mem_map, Prod.exists] at hfirst hsecond
    obtain ⟨_, _, ⟨_, _, hfirst⟩, rfl⟩ := hfirst
    obtain ⟨_, _, ⟨_, _, hsecond⟩, hkey⟩ := hsecond
    cases hfirst
    cases hsecond
    exact hne (congrArg Prod.fst hkey).symm

theorem Context.MibInv.eq_of_meKey (hinv : MibInv table ctx) {me me' : MeClass ω × MeEntry}
    (hme : me ∈ table.entities ctx) (hme' : me' ∈ table.entities ctx)
    (hkey : meKey me = meKey me') : me = me' :=
  List.inj_on_of_nodup_map hinv.nodup_keys hme hme' hkey

end Keys

/-! ## What the entries carry -/

section Entries

variable {cls : MeClass ω} {inst : InstanceId} {data : Buffer} {bin : List Attr}

@[simp]
theorem has_entryMask (bin : List Attr) (attr : Attr) :
    (entryMask bin).has attr = decide (attr ∈ bin) := by
  induction bin using List.reverseRecOn with
  | nil => simp [entryMask]
  | append_singleton bin last ih =>
      rw [entryMask, List.foldl_append]
      change AttrMask.has (entryMask bin ||| omciAttr2mask last) attr = _
      rw [AttrMask.has_or, ih, AttrMask.has_omciAttr2mask]
      simp [List.mem_append, eq_comm]

theorem length_flatMap_attrValue (cls : MeClass ω) (data : Buffer) (bin : List Attr) :
    (bin.flatMap fun attr => cls.attrValue attr data).length =
      filled (fun attr => (cls.attrs attr).size) bin := by
  simp [List.length_flatMap, filled, MeClass.attrValue]

theorem flatten_bins_sublist (cls : MeClass ω) : cls.bins.flatten.Sublist cls.uploaded := by
  rw [MeClass.bins]
  exact flatten_packBins_sublist cls.uploaded []

theorem pairwise_of_mem_bins (hbin : bin ∈ cls.bins) : bin.Pairwise (· < ·) := by
  have hflat : bin.Sublist cls.bins.flatten := List.sublist_flatten_of_mem hbin
  have hall : bin.Sublist (List.finRange 16) :=
    (hflat.trans (flatten_bins_sublist cls)).trans List.filter_sublist
  exact (List.pairwise_lt_finRange 16).sublist hall

/-- The attributes of a bin in front of one are those its mask has below it. -/
theorem offsetIn_entryMask {before after : List Attr}
    (hsorted : (before ++ attr :: after).Pairwise (· < ·)) :
    cls.offsetIn (entryMask (before ++ attr :: after)) attr =
      filled (fun attr => (cls.attrs attr).size) before := by
  obtain ⟨hbefore, hafter, hlt⟩ := List.pairwise_append.mp hsorted
  have hfilter : ((List.finRange 16).filter fun other =>
      (entryMask (before ++ attr :: after)).has other && decide (other < attr)).Perm before := by
    apply (List.perm_ext_iff_of_nodup ((List.nodup_finRange 16).filter _)
      (hbefore.imp fun h => h.ne)).mpr
    intro other
    simp only [List.mem_filter, List.mem_finRange, true_and, has_entryMask, Bool.and_eq_true,
      decide_eq_true_eq, List.mem_append, List.mem_cons]
    constructor
    · rintro ⟨hmem | rfl | hmem, hother⟩
      · exact hmem
      · exact absurd hother (lt_irrefl _)
      · exact absurd hother ((List.pairwise_cons.mp hafter).1 other hmem).not_gt
    · intro hmem
      exact ⟨Or.inl hmem, hlt other hmem attr List.mem_cons_self⟩
  exact (hfilter.map _).sum_eq

theorem value_entryOf (hbin : bin ∈ cls.bins) (hattr : attr ∈ bin) :
    (entryOf cls inst data bin).value cls attr = cls.attrValue attr data := by
  obtain ⟨before, after, rfl⟩ := List.append_of_mem hattr
  have hsorted := pairwise_of_mem_bins hbin
  rw [MibCopyEntry.value]
  simp only [entryOf, offsetIn_entryMask hsorted, List.flatMap_append, List.flatMap_cons]
  rw [← length_flatMap_attrValue cls data before, List.drop_left]
  apply List.take_left'
  simp [MeClass.attrValue]

theorem countP_bins (inst : InstanceId) (data : Buffer) (hattr : attr ∈ cls.bins.flatten) :
    (cls.bins.map (entryOf cls inst data)).countP (fun entry => entry.attrMask.has attr) = 1 := by
  have hnodup : cls.bins.flatten.Nodup :=
    ((List.nodup_finRange 16).filter _).sublist (flatten_bins_sublist cls)
  rw [List.countP_map]
  simpa [Function.comp_def, entryOf] using countP_mem_eq_one hnodup hattr

end Entries

/-! ## From reads to entries -/

def readMe (read : MeClass ω × MeEntry × Buffer) : MeClass ω × MeEntry := (read.1, read.2.1)

theorem copyReads_map (entities : List (MeClass ω × MeEntry)) (store : Store ω) :
    (copyReads entities store).map readMe =
      entities.filter fun me => me.1.isUploadable := by
  induction entities generalizing store with
  | nil => rfl
  | cons me entities ih =>
      obtain ⟨cls, entry⟩ := me
      rw [copyReads]
      by_cases hcls : cls.isUploadable = true
      · simp [hcls, ih, readMe]
      · simp [hcls, ih]

theorem mem_copyEntries {reads : List (MeClass ω × MeEntry × Buffer)} {entry : MibCopyEntry} :
    entry ∈ copyEntries reads ↔ ∃ read ∈ reads, ∃ bin ∈ read.1.bins,
      entry = entryOf read.1 read.2.1.instanceId read.2.2 bin := by
  simp [copyEntries, eq_comm]

theorem isFor_entryOf (read : MeClass ω × MeEntry × Buffer) (bin : List Attr)
    (me : MeClass ω × MeEntry) : (entryOf read.1 read.2.1.instanceId read.2.2 bin).isFor me =
      decide (meKey (readMe read) = meKey me) := by
  rw [Bool.eq_iff_iff, MibCopyEntry.isFor_iff, decide_eq_true_eq]
  rfl

section Reads

variable {reads : List (MeClass ω × MeEntry × Buffer)}

theorem countP_copyEntries_of_ne
    (hne : ∀ read ∈ reads, meKey (readMe read) ≠ meKey me) (attr : Attr) :
    (copyEntries reads).countP (fun entry => entry.isFor me && entry.attrMask.has attr) = 0 := by
  apply List.countP_eq_zero.mpr
  intro entry hentry
  obtain ⟨read, hread, bin, _, rfl⟩ := mem_copyEntries.mp hentry
  simp [isFor_entryOf, hne read hread]

/-- An attribute that is in a bin is in exactly one of all entries for its entity. -/
theorem countP_copyEntries (hkeys : (reads.map fun read => meKey (readMe read)).Nodup)
    {read : MeClass ω × MeEntry × Buffer} (hread : read ∈ reads)
    (hattr : attr ∈ read.1.bins.flatten) : (copyEntries reads).countP
      (fun entry => entry.isFor (readMe read) && entry.attrMask.has attr) = 1 := by
  induction reads with
  | nil => cases hread
  | cons head rest ih =>
      rw [List.map_cons] at hkeys
      obtain ⟨hhead, hrest⟩ := List.nodup_cons.mp hkeys
      have hne : ∀ other ∈ rest, meKey (readMe other) ≠ meKey (readMe head) :=
        fun other hother hkey => hhead (hkey ▸ List.mem_map_of_mem hother)
      have happend : copyEntries (head :: rest) =
          head.1.bins.map (entryOf head.1 head.2.1.instanceId head.2.2) ++ copyEntries rest := by
        simp [copyEntries]
      rw [happend, List.countP_append]
      rcases List.mem_cons.mp hread with rfl | hmem
      · rw [countP_copyEntries_of_ne hne, List.countP_map]
        have hbins := countP_bins read.2.1.instanceId read.2.2 hattr
        rw [List.countP_map] at hbins
        rw [Nat.add_zero, ← hbins]
        apply List.countP_congr
        intro bin _
        simp [isFor_entryOf]
      · rw [ih hrest hmem, List.countP_map]
        have hzero : head.1.bins.countP ((fun entry => entry.isFor (readMe read) &&
            entry.attrMask.has attr) ∘ entryOf head.1 head.2.1.instanceId head.2.2) = 0 := by
          apply List.countP_eq_zero.mpr
          intro bin _
          simp [isFor_entryOf, (hne read hmem).symm]
        rw [hzero]

end Reads

/-! ## The copy as a snapshot -/

section Snapshot

variable {table : ClassTable ω} {ctx : Context ω}

theorem exists_read (hme : me ∈ table.entities ctx) (huploadable : me.1.isUploadable = true) :
    ∃ read ∈ copyReads (table.entities ctx) ctx.handlerStore, readMe read = me := by
  have hmem : me ∈ (copyReads (table.entities ctx) ctx.handlerStore).map readMe := by
    rw [copyReads_map]
    exact List.mem_filter.mpr ⟨hme, huploadable⟩
  exact List.mem_map.mp hmem

theorem mem_entities_of_read {read : MeClass ω × MeEntry × Buffer}
    (hread : read ∈ copyReads (table.entities ctx) ctx.handlerStore) :
    readMe read ∈ table.entities ctx ∧ read.1.isUploadable = true := by
  have hmem : readMe read ∈ (copyReads (table.entities ctx) ctx.handlerStore).map readMe :=
    List.mem_map_of_mem hread
  rw [copyReads_map] at hmem
  exact List.mem_filter.mp hmem

theorem mem_flatten_bins {cls : MeClass ω} (huploaded : cls.isUploaded attr = true)
    (hfits : (cls.attrs attr).size ≤ mibUploadNextRspValuesSize) : attr ∈ cls.bins.flatten := by
  apply mem_flatten_packBins_of_le
  · simp [MeClass.uploaded, huploaded]
  · exact hfits

theorem wellPacked_of_packable (hinv : MibInv table ctx) (hpackable : Packable table ctx) :
    WellPacked table ctx ⟨copyEntries (copyReads (table.entities ctx) ctx.handlerStore),
      (copyEntries (copyReads (table.entities ctx) ctx.handlerStore)).length, false⟩ := by
  have hfits : ∀ read ∈ copyReads (table.entities ctx) ctx.handlerStore,
      ∀ attr ∈ read.1.bins.flatten, (read.1.attrs attr).size ≤ mibUploadNextRspValuesSize := by
    intro read hread
    obtain ⟨hme, huploadable⟩ := mem_entities_of_read hread
    exact (packBins_le_iff read.1.uploaded).mpr (hpackable _ hme huploadable)
  have hkeys : ((copyReads (table.entities ctx) ctx.handlerStore).map
      fun read => meKey (readMe read)).Nodup := by
    have hmap := congrArg (List.map meKey) (copyReads_map (table.entities ctx) ctx.handlerStore)
    rw [List.map_map] at hmap
    change (List.map (meKey ∘ readMe) _).Nodup
    rw [hmap]
    exact hinv.nodup_keys.sublist (List.filter_sublist.map _)
  constructor
  · -- present
    intro me hme huploadable
    obtain ⟨read, hread, rfl⟩ := exists_read hme huploadable
    have hbins : read.1.bins ≠ [] := packBins_ne_nil _ _
    obtain ⟨bin, hbin⟩ := List.exists_mem_of_ne_nil _ hbins
    exact ⟨_, mem_copyEntries.mpr ⟨read, hread, bin, hbin, rfl⟩, by simp [isFor_entryOf]⟩
  · -- once
    intro me hme huploadable attr huploaded hsize
    obtain ⟨read, hread, rfl⟩ := exists_read hme huploadable
    exact countP_copyEntries hkeys hread (mem_flatten_bins huploaded hsize)
  · -- fits
    intro entry hentry
    obtain ⟨read, hread, bin, hbin, rfl⟩ := mem_copyEntries.mp hentry
    have hfilled := filled_le_of_mem_packBins (by simp) (hfits read hread) bin hbin
    have hlength := length_flatMap_attrValue read.1 read.2.2 bin
    exact hlength.trans_le hfilled
  · -- small
    intro me hme huploadable attr hsize entry hentry hfor
    obtain ⟨read, hread, bin, hbin, rfl⟩ := mem_copyEntries.mp hentry
    rw [isFor_entryOf, decide_eq_true_eq] at hfor
    obtain rfl := hinv.eq_of_meKey (mem_entities_of_read hread).1 hme hfor
    have hattr : attr ∉ bin := by
      intro hattr
      have hle := hfits read hread attr (List.mem_flatten.mpr ⟨bin, hbin, hattr⟩)
      exact absurd hle (Nat.not_le.mpr hsize)
    simpa [entryOf] using hattr
  · rfl

section Copy

variable {copy : MibCopy}
  (hlist : copy.list = copyEntries (copyReads (table.entities ctx) ctx.handlerStore))
include hlist

theorem packable_of_wellPacked (hpacked : WellPacked table ctx copy) : Packable table ctx := by
  intro me hme huploadable
  obtain ⟨read, hread, rfl⟩ := exists_read hme huploadable
  apply (packBins_le_iff _).mp
  intro attr hattr
  obtain ⟨bin, hbin, hmem⟩ := List.mem_flatten.mp hattr
  by_contra hsize
  have hentry := mem_copyEntries.mpr ⟨read, hread, bin, hbin, rfl⟩
  rw [← hlist] at hentry
  have hnot := hpacked.small _ hme huploadable attr (Nat.lt_of_not_le hsize) _ hentry
    (by simp [isFor_entryOf])
  simp [entryOf, hmem] at hnot

theorem copySafe_of_snapshot (hsnapshot : Snapshot table ctx copy) : CopySafe table ctx := by
  refine ⟨packable_of_wellPacked hlist hsnapshot.toWellPacked,
    fun read hread attr huploaded hsize => ?_⟩
  obtain ⟨hme, huploadable⟩ := mem_entities_of_read hread
  obtain ⟨bin, hbin, hmem⟩ := List.mem_flatten.mp (mem_flatten_bins huploaded hsize)
  have hentry := mem_copyEntries.mpr ⟨read, hread, bin, hbin, rfl⟩
  rw [← hlist] at hentry
  have hcurrent := hsnapshot.current _ hme huploadable attr huploaded hsize _ hentry
    (by simp [isFor_entryOf]) (by simp [entryOf, hmem])
  exact (value_entryOf hbin hmem).symm.trans hcurrent

end Copy

theorem snapshot_of_copySafe (hinv : MibInv table ctx) (hsafe : CopySafe table ctx) :
    Snapshot table ctx ⟨copyEntries (copyReads (table.entities ctx) ctx.handlerStore),
      (copyEntries (copyReads (table.entities ctx) ctx.handlerStore)).length, false⟩ where
  toWellPacked := wellPacked_of_packable hinv hsafe.oversize
  current := by
    intro me hme huploadable attr huploaded hsize entry hentry hfor hhas
    obtain ⟨read, hread, bin, hbin, rfl⟩ := mem_copyEntries.mp hentry
    rw [isFor_entryOf, decide_eq_true_eq] at hfor
    obtain rfl := hinv.eq_of_meKey (mem_entities_of_read hread).1 hme hfor
    have hattr : attr ∈ bin := by simpa [entryOf] using hhas
    exact (value_entryOf hbin hattr).trans (hsafe.read read hread attr huploaded hsize)

/-! ## Reading the current values -/

/-- Without internal PM classes all entities are read from one store. -/
theorem mem_copyReads {entities : List (MeClass ω × MeEntry)} {store : Store ω}
    (hpm : ∀ me ∈ entities, me.1.isUploadable = true →
      hasProp me.1.prop (MeProp.pm ||| MeProp.pmInternal) = false)
    {read : MeClass ω × MeEntry × Buffer} : read ∈ copyReads entities store ↔
      ∃ me ∈ entities, me.1.isUploadable = true ∧
        read = (me.1, me.2, (meDataRead me.1 me.2.ref .curr store).2.2) := by
  induction entities with
  | nil => simp [copyReads]
  | cons me entities ih =>
      obtain ⟨cls, entry⟩ := me
      have ih' := ih fun me hme => hpm me (List.mem_cons_of_mem _ hme)
      rw [copyReads]
      by_cases huploadable : cls.isUploadable = true
      · have hstore := @meDataRead_store_of_not_pm _ cls entry.ref store
          (hpm (cls, entry) List.mem_cons_self huploadable) .curr
        simp [huploadable, hstore, ih']
      · simp [huploadable, ih']

/-- When reading delivers the current value of an attribute. -/
theorem readsCurrent_iff {store : Store ω} (hplain : me.1.ReadPlainly)
    (hexist : me.1.isMeAttrExist attr = true) :
    me.1.attrValue attr (meDataRead me.1 me.2.ref .curr store).2.2 =
        currentValue me.1 me.2.ref store attr ↔ ReadsCurrent store me attr := by
  have hpm := hplain.1
  rw [ReadsCurrent]
  split
  · rename_i hlaid
    have hrefreshed := @meDataRead_refreshed _ me.1 me.2.ref store hlaid .curr
    rw [meDataRead_store_of_not_pm hpm] at hrefreshed
    by_cases hfailed : ∃ other < attr, me.1.GetFails me.2.ref store other
    · obtain ⟨other, hlt, hother⟩ := hfailed
      rw [hrefreshed.stale attr (List.mem_finRange attr) hexist
        ⟨other, List.mem_finRange other, hlt, hother⟩]
      exact ⟨fun h _ => h, fun h => h ⟨other, hlt, hother⟩⟩
    · refine iff_of_true ?_ fun h => absurd h hfailed
      exact hrefreshed.current attr (List.mem_finRange attr) hexist
        fun other _ hlt hother => hfailed ⟨other, hlt, hother⟩
  · rename_i hlaid
    obtain ⟨haccepted, hget⟩ := hplain.2.resolve_left hlaid
    rw [currentValue, hget]
    exact attrValue_meDataRead_iff haccepted hget hpm hexist

theorem MeClass.isMeAttrExist_of_isUploaded {cls : MeClass ω}
    (huploaded : cls.isUploaded attr = true) : cls.isMeAttrExist attr = true := by
  rw [MeClass.isUploaded, Bool.and_eq_true, Bool.and_eq_true] at huploaded
  exact huploaded.1.1

theorem copySafe_iff
    (hplain : ∀ me ∈ table.entities ctx, me.1.isUploadable = true → me.1.ReadPlainly) :
    CopySafe table ctx ↔ Packable table ctx ∧
      ∀ me ∈ table.entities ctx, me.1.isUploadable = true → ∀ attr,
        me.1.isUploaded attr = true → (me.1.attrs attr).size ≤ mibUploadNextRspValuesSize →
        ReadsCurrent ctx.handlerStore me attr := by
  have hreads := @mem_copyReads _ (table.entities ctx) ctx.handlerStore
    fun me hme huploadable => (hplain me hme huploadable).1
  constructor
  · refine fun hsafe => ⟨hsafe.oversize, fun me hme huploadable attr huploaded hsize => ?_⟩
    apply (readsCurrent_iff (hplain me hme huploadable)
      (MeClass.isMeAttrExist_of_isUploaded huploaded)).mp
    exact hsafe.read _ (hreads.mpr ⟨me, hme, huploadable, rfl⟩) attr huploaded hsize
  · refine fun ⟨hpackable, hcurrent⟩ => ⟨hpackable, fun read hread attr huploaded hsize => ?_⟩
    obtain ⟨me, hme, huploadable, rfl⟩ := hreads.mp hread
    exact (readsCurrent_iff (hplain me hme huploadable)
      (MeClass.isMeAttrExist_of_isUploaded huploaded)).mpr
        (hcurrent me hme huploadable attr huploaded hsize)

/-- The attributes are packed as they should be exactly when the classes present keep their
oversized attributes in front. Where these classes keep their attributes in order or have no get
handlers, the copy is a snapshot exactly when the values are the current ones besides. -/
theorem mibCopy_snapshot_iff (hinv : MibInv table ctx) (hgranted : ctx.CopyGranted) :
    (WellPacked table ctx (mibCopy table ctx).2.1 ↔ Packable table ctx) ∧
      ((∀ me ∈ table.entities ctx, me.1.isUploadable = true → me.1.ReadPlainly) →
        (Snapshot table ctx (mibCopy table ctx).2.1 ↔ Packable table ctx ∧
          ∀ me ∈ table.entities ctx, me.1.isUploadable = true → ∀ attr,
            me.1.isUploaded attr = true → (me.1.attrs attr).size ≤ mibUploadNextRspValuesSize →
            ReadsCurrent ctx.handlerStore me attr)) := by
  obtain ⟨ctx', hcopy⟩ := mibCopy_eq table hgranted
  rw [hcopy]
  refine ⟨⟨packable_of_wellPacked rfl, wellPacked_of_packable hinv⟩, fun hplain => ?_⟩
  rw [← copySafe_iff hplain]
  exact ⟨copySafe_of_snapshot rfl, snapshot_of_copySafe hinv⟩

end Snapshot

/-! ## A MIB with one entity -/

theorem singleMe_mibInv (active : Bool) (classId : ClassId) (inst : InstanceId) :
    MibInv sampleTable (singleMe active classId inst) :=
  (mibMeCreate_kept (mibInv_empty _ _ _) active classId inst _ _).inv

/-- The copy of a MIB with one GAL Ethernet profile is a snapshot. -/
theorem galEthernetProfile_snapshot :
    Snapshot sampleTable (singleMe true 272 1) (mibCopy sampleTable (singleMe true 272 1)).2.1 := by
  have hentities : sampleTable.entities (singleMe true 272 1) =
      [(meGalEthernetProfileClass, ⟨0, 1, true, true⟩)] := rfl
  have hnone : ∀ attr, (meGalEthernetProfileClass.attrs attr).get.isNone = true := by decide
  apply ((mibCopy_snapshot_iff (singleMe_mibInv true 272 1) (fun _ => rfl)).2 ?_).mpr
  · rw [Packable, hentities]
    refine ⟨fun me hme _ => ?_, fun me hme _ attr _ _ => ?_⟩
    · obtain rfl := List.mem_singleton.mp hme
      decide
    · obtain rfl := List.mem_singleton.mp hme
      rw [ReadsCurrent, if_pos (by decide)]
      rintro ⟨other, _, _, get, hget, _⟩
      have hsome := hnone other
      dsimp only at hget
      rw [hget] at hsome
      cases hsome
  · rw [hentities]
    intro me hme _
    obtain rfl := List.mem_singleton.mp hme
    exact ⟨by decide, .inl (by decide)⟩

/-- The copy of a MIB with an ONU loop detection entity is not: its last attribute
takes 28 bytes and follows small ones. -/
theorem onuLoopDetection_not_snapshot :
    meOnuLoopDetectionClass.isAccepted = true ∧
      ¬ Snapshot sampleTable (singleMe false 65528 0)
        (mibCopy sampleTable (singleMe false 65528 0)).2.1 := by
  refine ⟨by decide, fun hsnapshot => ?_⟩
  have hlarge : (mibCopy sampleTable (singleMe false 65528 0)).2.1.list.all
      (fun entry => decide (entry.values.length ≤ mibUploadNextRspValuesSize)) = false := by
    decide
  have hfits : (mibCopy sampleTable (singleMe false 65528 0)).2.1.list.all
      (fun entry => decide (entry.values.length ≤ mibUploadNextRspValuesSize)) = true := by
    rw [List.all_eq_true]
    intro entry hentry
    exact decide_eq_true (hsnapshot.fits entry hentry)
  rw [hlarge] at hfits
  cases hfits

end FalconGpon.Omci
