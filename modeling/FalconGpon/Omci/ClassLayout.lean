/-
# The class check and the layout of the data

`mib_create` checks of each attribute that its offset and size stay within the data of the
class, and that the sizes add up to that of the data. It never compares an offset with the
sizes in front of it, although `me_data_fetch` takes the bytes of an attribute from there:
the class of the ONU remote debug entity passes with two attributes at the same offset.

The layout is right exactly when neighbours adjoin, and what `me_data_read` returns is then
right too exactly when no undefined attribute has bytes in front of a supported one, as
these bytes count for the check but not for fetching.
-/

import FalconGpon.Lib.Layout
import FalconGpon.Omci.ReadSource
import Mathlib.Algebra.BigOperators.Fin

namespace FalconGpon.Omci

open FalconGpon.Lib

variable {ω : Type} {cls : MeClass ω}

namespace MeClass

def offsets (cls : MeClass ω) (attr : Attr) : Nat := (cls.attrs attr).offset

def sizes (cls : MeClass ω) (attr : Attr) : Nat := (cls.attrs attr).size

/-- The offsets agree with the sizes: the bytes of an attribute are those behind the sizes
of the attributes in front of it, they are data of the class, and no others'. -/
structure Consistent (cls : MeClass ω) : Prop where
  offset : ∀ attr, 0 < (cls.attrs attr).size → (cls.attrs attr).offset = cls.attrSum attr
  inside : ∀ attr, 0 < (cls.attrs attr).size →
    (cls.attrs attr).offset + (cls.attrs attr).size ≤ cls.dataSize
  disjoint : ∀ attr other, attr ≠ other → 0 < (cls.attrs attr).size →
    0 < (cls.attrs other).size → cls.Disjoint attr other

/-- `me_data_read` succeeds and returns the stored bytes of each supported attribute. -/
def ReadsStored (cls : MeClass ω) : Prop :=
  ∀ ref store interval,
    (meDataRead cls ref interval store).2.1 = .success ∧
      ∀ attr, cls.isMeAttrExist attr = true →
        cls.attrValue attr (meDataRead cls ref interval store).2.2 =
          cls.attrValue attr ((meDataRead cls ref interval store).1.me ref).bytes

def NoHiddenBytes (cls : MeClass ω) : Prop :=
  ∀ hidden attr, hidden < attr → (cls.attrs hidden).prop = AttrProp.none →
    cls.isMeAttrExist attr = true → 0 < (cls.attrs attr).size → (cls.attrs hidden).size = 0

end MeClass

/-! ## The offsets -/

theorem sum_map_filter_finRange (p : Attr → Bool) (size : Attr → Nat) :
    (((List.finRange 16).filter p).map size).sum = ∑ attr with p attr = true, size attr := by
  have hlist : ∀ attrs : List Attr, ((attrs.filter p).map size).sum =
      (attrs.map fun attr => if p attr = true then size attr else 0).sum := by
    intro attrs
    induction attrs with
    | nil => rfl
    | cons attr attrs ih => by_cases hp : p attr = true <;> simp [hp, ih]
  rw [hlist, Finset.sum_filter, Fin.sum_univ_def]

theorem attrSum_eq_sizeBelow (attr : Attr) : cls.attrSum attr = sizeBelow cls.sizes attr := by
  rw [MeClass.attrSum, sum_map_filter_finRange, sizeBelow]
  apply Finset.sum_congr
  · ext other
    simp
  · intro _ _
    rfl

/-- An accepted class has consistent offsets exactly if neighbours adjoin. -/
theorem consistent_iff_adjoining (haccepted : cls.isAccepted = true) :
    cls.Consistent ↔ Adjoining cls.offsets cls.sizes := by
  rw [← sequential_iff_adjoining]
  constructor
  · intro hconsistent attr hsize
    rw [← attrSum_eq_sizeBelow]
    exact hconsistent.offset attr hsize
  · intro hsequential
    refine ⟨fun attr hsize => ?_, fun attr hsize => ?_, fun attr other hne hattr hother => ?_⟩
    · rw [attrSum_eq_sizeBelow]
      exact hsequential attr hsize
    · rcases MeClass.bounds_of_isAccepted haccepted attr with hzero | hbound
      · omega
      · exact hbound
    · rcases lt_or_gt_of_ne hne with hlt | hlt
      · exact Or.inl (hsequential.le_of_lt hlt hattr hother)
      · exact Or.inr (hsequential.le_of_lt hlt hother hattr)

/-! ## Reading -/

theorem has_not_invAttrMask (attr : Attr) :
    (~~~cls.invAttrMask).has attr = ((cls.attrs attr).prop != AttrProp.none) := by
  rw [AttrMask.has_not, MeClass.invAttrMask, AttrMask.has_maskOf]
  rfl

theorem offsetIn_eq_sum (mask : AttrMask) (attr : Attr) :
    cls.offsetIn mask attr = ∑ other ∈ (Finset.Iio attr).filter (mask.has ·), cls.sizes other := by
  rw [MeClass.offsetIn, sum_map_filter_finRange]
  apply Finset.sum_congr
  · ext other
    simp [and_comm]
  · intro _ _
    rfl

theorem offsetIn_invAttrMask (hhidden : cls.NoHiddenBytes) {attr : Attr}
    (hexist : cls.isMeAttrExist attr = true) (hsize : 0 < (cls.attrs attr).size) :
    cls.offsetIn (~~~cls.invAttrMask) attr = cls.attrSum attr := by
  rw [offsetIn_eq_sum, attrSum_eq_sizeBelow, sizeBelow]
  apply Finset.sum_subset (Finset.filter_subset _ _)
  intro other hother hout
  apply hhidden other attr (Finset.mem_Iio.mp hother) _ hexist hsize
  by_contra hprop
  apply hout
  rw [Finset.mem_filter, has_not_invAttrMask]
  exact ⟨hother, bne_iff_ne.mpr hprop⟩

/-- Hidden bytes make it look too far in front. -/
theorem offsetIn_add_le_of_hidden {hidden attr : Attr} (hlt : hidden < attr)
    (hprop : (cls.attrs hidden).prop = AttrProp.none) :
    cls.offsetIn (~~~cls.invAttrMask) attr + (cls.attrs hidden).size ≤ cls.attrSum attr := by
  have hout : hidden ∉ (Finset.Iio attr).filter ((~~~cls.invAttrMask).has ·) := by
    rw [Finset.mem_filter, has_not_invAttrMask, hprop]
    simp
  rw [offsetIn_eq_sum, attrSum_eq_sizeBelow, sizeBelow, Nat.add_comm]
  calc
    _ = ∑ other ∈ insert hidden ((Finset.Iio attr).filter ((~~~cls.invAttrMask).has ·)),
        cls.sizes other := (Finset.sum_insert hout).symm
    _ ≤ _ := by
      apply Finset.sum_le_sum_of_subset
      intro other hother
      rcases Finset.mem_insert.mp hother with rfl | hmem
      · exact Finset.mem_Iio.mpr hlt
      · exact (Finset.mem_filter.mp hmem).1

theorem MeClass.Consistent.eq_of_covers (hconsistent : cls.Consistent) {attr other : Attr}
    {pos : Nat} (hattr : cls.Covers attr pos) (hother : cls.Covers other pos) : attr = other := by
  obtain ⟨hbegin, hend⟩ := hattr
  obtain ⟨hbegin', hend'⟩ := hother
  by_contra hne
  rcases hconsistent.disjoint attr other hne (by omega) (by omega) with hle | hle
  · omega
  · omega

theorem MeClass.Consistent.intact_iff (hconsistent : cls.Consistent) {attr : Attr}
    (hexist : cls.isMeAttrExist attr = true) (hsize : 0 < (cls.attrs attr).size) :
    cls.Intact attr ↔ (cls.attrs attr).offset = cls.offsetIn (~~~cls.invAttrMask) attr := by
  constructor
  · intro hintact
    have hcovers : cls.Covers attr (cls.attrs attr).offset := ⟨le_rfl, by omega⟩
    refine hintact (cls.attrs attr).offset attr hcovers ⟨hexist, hcovers, ?_⟩
    intro later hlater _ hcovers'
    exact hlater.ne (hconsistent.eq_of_covers hcovers hcovers')
  · intro hoffset pos writer hcovers hwriter
    rw [← hconsistent.eq_of_covers hcovers hwriter.covers]
    exact hoffset

theorem noHiddenBytes_of_readsStored [Inhabited ω] (haccepted : cls.isAccepted = true)
    (hget : ∀ attr, (cls.attrs attr).get = none) (hkeeps : cls.KeepsData)
    (hconsistent : cls.Consistent) (hreads : cls.ReadsStored) : cls.NoHiddenBytes := by
  intro hidden attr hlt hprop hexist hsize
  have hintact : cls.Intact attr :=
    intact_of_attrValue haccepted hget hkeeps hexist default 0 .curr
      fun pos => (hreads 0 (Store.marked default pos) .curr).2 attr hexist
  have hshort := offsetIn_add_le_of_hidden hlt hprop
  have hoffset := hconsistent.offset attr hsize
  rw [(hconsistent.intact_iff hexist hsize).mp hintact] at hoffset
  omega

theorem MeClass.Consistent.readsStored (hconsistent : cls.Consistent)
    (haccepted : cls.isAccepted = true) (hget : ∀ attr, (cls.attrs attr).get = none)
    (hhidden : cls.NoHiddenBytes) : cls.ReadsStored := by
  intro ref store interval
  refine ⟨meDataRead_success haccepted hget interval, fun attr hexist => ?_⟩
  rcases Nat.eq_zero_or_pos (cls.attrs attr).size with hzero | hsize
  · simp [MeClass.attrValue, hzero, slice]
  · apply attrValue_meDataRead haccepted hget hexist
    apply (hconsistent.intact_iff hexist hsize).mpr
    rw [offsetIn_invAttrMask hhidden hexist hsize]
    exact hconsistent.offset attr hsize

/-- The offsets of an accepted class agree with its sizes exactly if neighbours adjoin. If
also no undefined attribute has bytes in front of a supported one, entities of a class
without get handlers read what is stored; with hidden bytes they do not, whatever handlers
there are to fetch counters, as long as they leave the data to the class. -/
theorem classCheck_iff [Inhabited ω] (cls : MeClass ω) (haccepted : cls.isAccepted = true) :
    (cls.Consistent ↔ Adjoining cls.offsets cls.sizes) ∧ ((∀ attr, (cls.attrs attr).get = none) →
        (Adjoining cls.offsets cls.sizes ∧ cls.NoHiddenBytes →
          cls.Consistent ∧ cls.ReadsStored) ∧ (cls.KeepsData → cls.Consistent ∧ cls.ReadsStored →
          Adjoining cls.offsets cls.sizes ∧ cls.NoHiddenBytes)) := by
  have hlayout := consistent_iff_adjoining haccepted
  refine ⟨hlayout, fun hget => ⟨fun hcond => ?_, fun hkeeps hsound => ?_⟩⟩
  · have hconsistent := hlayout.mpr hcond.1
    exact ⟨hconsistent, hconsistent.readsStored haccepted hget hcond.2⟩
  · exact ⟨hlayout.mp hsound.1,
      noHiddenBytes_of_readsStored haccepted hget hkeeps hsound.1 hsound.2⟩

/-- The class of the GAL Ethernet profile passes, and its offset is consistent. -/
theorem classCheck_galEthernetProfile :
    meGalEthernetProfileClass.isAccepted = true ∧ (meGalEthernetProfileClass.Consistent ↔
        Adjoining meGalEthernetProfileClass.offsets meGalEthernetProfileClass.sizes) :=
  ⟨by decide, (classCheck_iff meGalEthernetProfileClass (by decide)).1⟩

/-! ## The class of the ONU remote debug entity -/

/-- `me_update` of `omci_onu_remote_debug.c`, on top of a command line that accepts every
command; a new entity has its command cleared. -/
def remoteDebugUpdate : UpdateHandler Unit := fun ref store data _ =>
  if (store.me ref).isInitialized then (store, .success, data)
  else (store.modify ref fun bytes => patch bytes 1 (List.replicate 25 0), .success, data)

open AttrProp in
/-- `me_onu_remote_debug_class`: the reply table has the offset of the command format. -/
def meOnuRemoteDebugClass : MeClass Unit where
  classId := 158
  attrs attr :=
    match attr.val with
    | 0 => ⟨0, 1, rd, none⟩
    | 1 => ⟨1, 25, wr, none⟩
    | 2 => ⟨0, 1, rd ||| table ||| noUpload, none⟩
    | _ => ⟨0, 0, AttrProp.none, none⟩
  actions := meActions [(mtSet, .set), (mtGet, .get), (26, .getNext)]
  init := some fun me instanceId initData _ =>
    match initData with
    | .none => .done .invalidPtr
    | some data => if instanceId = 0 then initWrite me data else .done .invalidMeId
  shutdown := .none
  validate := .none
  update := some remoteDebugUpdate
  countersGet := .none
  thrSet := .none
  dataSize := 27
  prop := MeProp.noUpload ||| 0x8000

/-- An entity of this class made from data that end with a one, which `me_data_write` puts at
the offset of the reply table. -/
def remoteDebugStore : Store Unit where
  me _ :=
    { isInitialized := true
      buffer := fun _ i => if i = 0 then 1 else 0
      data := 0
      curr := 0
      hist := 0
      abs := 0 }
  meList _ := []
  outer := ()

/-- The class passes the check, the bytes of its third attribute are those of the first,
and reading returns for the command format what is stored behind the command instead of
what is stored at its offset. -/
theorem remoteDebug_overlaps :
    meOnuRemoteDebugClass.isAccepted = true ∧
      (meOnuRemoteDebugClass.attrs 2).offset ≠ meOnuRemoteDebugClass.attrSum 2 ∧
      ¬ meOnuRemoteDebugClass.Disjoint 0 2 ∧
      ¬ meOnuRemoteDebugClass.Consistent ∧
      meOnuRemoteDebugClass.isMeAttrExist 0 = true ∧
      meOnuRemoteDebugClass.attrValue 0 (remoteDebugStore.me 0).bytes = [1] ∧
      meOnuRemoteDebugClass.attrValue 0
        (meDataRead meOnuRemoteDebugClass 0 .curr remoteDebugStore).2.2 = [0] := by
  refine ⟨by decide, by decide, by decide, ?_, by decide, by decide, by decide⟩
  intro hconsistent
  exact absurd (hconsistent.offset 2 (by decide)) (by decide)

end FalconGpon.Omci
