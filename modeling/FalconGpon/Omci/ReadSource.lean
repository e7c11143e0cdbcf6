/-
# Where the bytes come from that are read

`me_data_fetch` takes the bytes of an attribute from behind the defined attributes in front
of it, and puts them at the attribute's offset. In a class without get handlers each byte
that is read is therefore the stored byte that belongs to the last supported attribute with
this byte; it is the right one if this attribute begins where it is looked for.
-/

import FalconGpon.Omci.SetAction
import Mathlib.Order.Preorder.Finite

namespace FalconGpon.Omci

open FalconGpon.Lib

variable {ω : Type} {cls : MeClass ω}

namespace MeClass

def Covers (cls : MeClass ω) (attr : Attr) (pos : Nat) : Prop :=
  (cls.attrs attr).offset ≤ pos ∧ pos < (cls.attrs attr).offset + (cls.attrs attr).size

instance (cls : MeClass ω) (attr : Attr) (pos : Nat) : Decidable (cls.Covers attr pos) :=
  inferInstanceAs (Decidable (_ ∧ _))

/-- The supported attribute that is fetched last for a byte. -/
structure LastWriter (cls : MeClass ω) (pos : Nat) (writer : Attr) : Prop where
  exist : cls.isMeAttrExist writer = true
  covers : cls.Covers writer pos
  last : ∀ later, writer < later → cls.isMeAttrExist later = true → ¬ cls.Covers later pos

def Intact (cls : MeClass ω) (attr : Attr) : Prop :=
  ∀ pos writer, cls.Covers attr pos → cls.LastWriter pos writer →
    (cls.attrs writer).offset = cls.offsetIn (~~~cls.invAttrMask) writer

/-- The bytes of an attribute are the same where the attribute that is fetched last for them is
looked for. -/
def InPlace (cls : MeClass ω) (data : Buffer) (attr : Attr) : Prop :=
  ∀ pos writer, cls.Covers attr pos → cls.LastWriter pos writer →
    data (cls.offsetIn (~~~cls.invAttrMask) writer + (pos - (cls.attrs writer).offset)) = data pos

/-- The class has no PM counters, and keeps its attributes in the order of the table or has no get
handlers. -/
def ReadPlainly (cls : MeClass ω) : Prop :=
  hasProp cls.prop (MeProp.pm ||| MeProp.pmInternal) = false ∧
    (cls.laidOut = true ∨ cls.isAccepted = true ∧ ∀ attr, (cls.attrs attr).get = none)

def KeepsData (cls : MeClass ω) : Prop :=
  hasProp cls.prop MeProp.pmInternal = true ∨ cls.countersGet = none

end MeClass

/-- The position that the loop of `me_data_fetch` takes a byte from, for a byte that was
taken from `found` before. -/
def fetchSource (cls : MeClass ω) (attrMask dataAttrMask : AttrMask) (pos : Nat) :
    List Attr → Nat → Nat → Nat
  | [], _, found => found
  | attr :: attrs, offset, found =>
      fetchSource cls attrMask dataAttrMask pos attrs
        (if dataAttrMask.has attr then offset + (cls.attrs attr).size else offset)
        (if attrMask.has attr = true ∧ cls.Covers attr pos then
          offset + (pos - (cls.attrs attr).offset)
        else found)

section Source

variable {ref : MeRef} {store : Store ω} {attrMask dataAttrMask : AttrMask} {pos : Nat}

/-- Fetching without get handlers moves bytes. -/
theorem fetchAttrs_source {data : Buffer} {dataSize : Nat}
    (hget : ∀ attr, (cls.attrs attr).get = none) {attrs : List Attr} {offset : Nat}
    (hfit : offset + (attrs.map fun attr => (cls.attrs attr).size).sum ≤ dataSize)
    (found : Nat → Nat) :
    fetchAttrs cls ref store attrMask data dataSize dataAttrMask attrs offset
        (fun pos => data (found pos)) =
      (.success, fun pos =>
        data (fetchSource cls attrMask dataAttrMask pos attrs offset (found pos))) := by
  induction attrs generalizing offset found with
  | nil => rfl
  | cons attr attrs ih =>
      rw [List.map_cons, List.sum_cons] at hfit
      have hnext : (if dataAttrMask.has attr then offset + (cls.attrs attr).size else offset) +
          (attrs.map fun attr => (cls.attrs attr).size).sum ≤ dataSize := by
        split <;> omega
      have hbound : ¬ dataSize < offset + (cls.attrs attr).size := by omega
      rw [fetchAttrs]
      by_cases hmask : attrMask.has attr = true
      · simp only [hmask, Bool.not_true, Bool.false_eq_true, if_false, hbound, hget attr]
        rw [patch_slice, ih hnext]
        simp only [fetchSource, hmask, true_and, MeClass.Covers]
      · simp only [hmask, Bool.not_false, if_true]
        rw [ih hnext]
        simp only [fetchSource, hmask, false_and, Bool.false_eq_true, if_false]

theorem fetchSource_of_not_covers {attrs : List Attr} {offset found : Nat}
    (hnone : ∀ attr ∈ attrs, attrMask.has attr = true → ¬ cls.Covers attr pos) :
    fetchSource cls attrMask dataAttrMask pos attrs offset found = found := by
  induction attrs generalizing offset with
  | nil => rfl
  | cons attr attrs ih =>
      have hnot : ¬ (attrMask.has attr = true ∧ cls.Covers attr pos) :=
        fun h => hnone attr List.mem_cons_self h.1 h.2
      rw [fetchSource, if_neg hnot]
      exact ih fun other hother => hnone other (List.mem_cons_of_mem _ hother)

/-- The last attribute that covers a byte says where it is taken from. -/
theorem fetchSource_of_last {done attrs : List Attr} (hsplit : done ++ attrs = List.finRange 16)
    {found : Nat} {writer : Attr} (hmem : writer ∈ attrs)
    (hmask : attrMask.has writer = true) (hcovers : cls.Covers writer pos)
    (hlast : ∀ later, writer < later → attrMask.has later = true → ¬ cls.Covers later pos) :
    fetchSource cls attrMask dataAttrMask pos attrs
        ((done.filter fun other => dataAttrMask.has other).map
          fun other => (cls.attrs other).size).sum found =
      cls.offsetIn dataAttrMask writer + (pos - (cls.attrs writer).offset) := by
  induction attrs generalizing done found with
  | nil => cases hmem
  | cons head attrs ih =>
      have hsplit' : (done ++ [head]) ++ attrs = List.finRange 16 := by simpa using hsplit
      have hoffset : cls.offsetIn dataAttrMask head = _ := offsetIn_eq_of_append hsplit
      have hnext : (((done ++ [head]).filter fun other => dataAttrMask.has other).map
          fun other => (cls.attrs other).size).sum =
            if dataAttrMask.has head then cls.offsetIn dataAttrMask head + (cls.attrs head).size
            else cls.offsetIn dataAttrMask head := by
        by_cases hvalid : dataAttrMask.has head = true <;> simp [hoffset, hvalid]
      rw [fetchSource, ← hoffset, ← hnext]
      rcases List.mem_cons.mp hmem with rfl | hrest
      · -- those behind it do not cover the byte
        have hsorted := List.pairwise_lt_finRange 16
        rw [← hsplit] at hsorted
        obtain ⟨hlater, _⟩ := List.pairwise_cons.mp (List.pairwise_append.mp hsorted).2.1
        rw [if_pos ⟨hmask, hcovers⟩]
        exact fetchSource_of_not_covers fun other hother => hlast other (hlater other hother)
      · exact ih hsplit' hrest

/-- Where `me_data_read` takes a byte from. -/
def readSource (cls : MeClass ω) (pos : Nat) : Nat :=
  fetchSource cls (~~~(cls.invAttrMask ||| cls.optAttrMask)) (~~~cls.invAttrMask) pos
    (List.finRange 16) 0 pos

theorem readSource_of_last {writer : Attr} (h : cls.LastWriter pos writer) :
    readSource cls pos =
      cls.offsetIn (~~~cls.invAttrMask) writer + (pos - (cls.attrs writer).offset) := by
  apply fetchSource_of_last (List.nil_append _) (List.mem_finRange writer)
  · rw [has_readMask]
    exact h.exist
  · exact h.covers
  · intro later hlater hexist
    rw [has_readMask] at hexist
    exact h.last later hlater hexist

variable {attr : Attr}

theorem exists_lastWriter (hexist : cls.isMeAttrExist attr = true)
    (hcovers : cls.Covers attr pos) : ∃ writer, cls.LastWriter pos writer := by
  have hany : (Finset.univ.filter fun other =>
      cls.isMeAttrExist other = true ∧ cls.Covers other pos).Nonempty :=
    ⟨attr, Finset.mem_filter.mpr ⟨Finset.mem_univ attr, hexist, hcovers⟩⟩
  obtain ⟨writer, hwriter, hmax⟩ := Finset.exists_maximal hany
  obtain ⟨_, hexist', hcovers'⟩ := Finset.mem_filter.mp hwriter
  refine ⟨writer, hexist', hcovers', fun later hlater hexist'' hcovers'' => ?_⟩
  have hle : later ≤ writer := hmax
    (Finset.mem_filter.mpr ⟨Finset.mem_univ later, hexist'', hcovers''⟩) hlater.le
  exact absurd hlater hle.not_gt

theorem readSource_eq_iff_intact (hexist : cls.isMeAttrExist attr = true) :
    (∀ pos, cls.Covers attr pos → readSource cls pos = pos) ↔ cls.Intact attr := by
  constructor
  · intro hsource pos writer hcovers hwriter
    have hpos := hsource pos hcovers
    rw [readSource_of_last hwriter] at hpos
    have hbegin := hwriter.covers.1
    omega
  · intro hintact pos hcovers
    obtain ⟨writer, hwriter⟩ := exists_lastWriter hexist hcovers
    have hbegin := hwriter.covers.1
    rw [readSource_of_last hwriter, ← hintact pos writer hcovers hwriter]
    omega

section Plain

variable (haccepted : cls.isAccepted = true) (hget : ∀ attr, (cls.attrs attr).get = none)
include haccepted hget

/-- What `me_data_read` returns for an entity of a class without get handlers. -/
theorem meDataRead_source (hexist : cls.isMeAttrExist attr = true) (interval : PmInterval) :
    meDataRead cls ref interval store =
      (pmMeIntervalSet cls ref interval store, .success, fun pos =>
        ((pmMeIntervalSet cls ref interval store).me ref).bytes (readSource cls pos)) := by
  have hall : cls.invAttrMask ||| cls.optAttrMask ≠ 0xffff#16 := by
    intro hall
    rw [← has_readMask, hall] at hexist
    simp [AttrMask.has] at hexist
  have hsum : 0 + ((List.finRange 16).map fun attr => (cls.attrs attr).size).sum ≤
      cls.dataSize := by
    simp only [MeClass.isAccepted, Bool.and_eq_true, beq_iff_eq] at haccepted
    omega
  rw [meDataRead, if_neg hall]
  dsimp only
  rw [meDataFetch]
  exact congrArg _ (fetchAttrs_source hget hsum id)

/-- Reading such an entity succeeds. -/
theorem meDataRead_success (interval : PmInterval) :
    (meDataRead cls ref interval store).2.1 = .success := by
  by_cases hall : cls.invAttrMask ||| cls.optAttrMask = 0xffff#16
  · rw [meDataRead, if_pos hall]
  · have hany : ∃ attr, cls.isMeAttrExist attr = true := by
      by_contra hnone
      apply hall
      apply AttrMask.ext_has
      intro attr
      have hmissing : cls.isMeAttrExist attr = false := by
        by_contra hexist
        exact hnone ⟨attr, Bool.not_eq_false _ ▸ hexist⟩
      rw [← has_readMask, AttrMask.has_not, Bool.not_eq_false'] at hmissing
      have hfull : ∀ attr, AttrMask.has 0xffff#16 attr = true := by decide
      rw [hmissing, hfull attr]
    obtain ⟨attr, hexist⟩ := hany
    rw [meDataRead_source haccepted hget hexist]

theorem attrValue_meDataRead
    (hexist : cls.isMeAttrExist attr = true) (hintact : cls.Intact attr) (interval : PmInterval) :
    cls.attrValue attr (meDataRead cls ref interval store).2.2 =
      cls.attrValue attr ((meDataRead cls ref interval store).1.me ref).bytes := by
  rw [meDataRead_source haccepted hget hexist]
  apply slice_eq_iff.mpr
  intro i hi
  dsimp only
  rw [(readSource_eq_iff_intact hexist).mpr hintact _ ⟨Nat.le_add_right _ _, by omega⟩]

/-- The stored value is read exactly where its bytes are in place. -/
theorem attrValue_meDataRead_iff (hpm : hasProp cls.prop (MeProp.pm ||| MeProp.pmInternal) = false)
    (hexist : cls.isMeAttrExist attr = true) {interval : PmInterval} :
    cls.attrValue attr (meDataRead cls ref interval store).2.2 =
        cls.attrValue attr (store.me ref).bytes ↔ cls.InPlace (store.me ref).bytes attr := by
  rw [meDataRead_source haccepted hget hexist, pmMeIntervalSet_of_not_pm hpm]
  dsimp only
  rw [MeClass.attrValue, MeClass.attrValue, slice_eq_iff]
  constructor
  · intro hbytes pos writer hcovers hwriter
    obtain ⟨hbegin, hend⟩ := hcovers
    have hbyte := hbytes (pos - (cls.attrs attr).offset) (by omega)
    rwa [Nat.add_sub_cancel' hbegin, readSource_of_last hwriter] at hbyte
  · intro hbytes i hi
    have hcovers : cls.Covers attr ((cls.attrs attr).offset + i) :=
      ⟨Nat.le_add_right _ _, Nat.add_lt_add_left hi _⟩
    obtain ⟨writer, hwriter⟩ := exists_lastWriter hexist hcovers
    rw [readSource_of_last hwriter]
    exact hbytes _ writer hcovers hwriter

end Plain

/-- A store whose data tell one position from all others. -/
def Store.marked (outer : ω) (position : Nat) : Store ω where
  me _ :=
    { isInitialized := true
      buffer := fun _ i => if i = position then 1 else 0
      data := 0
      curr := 0
      hist := 0
      abs := 0 }
  meList _ := []
  outer := outer

theorem Store.marked_bytes (outer : ω) (position : Nat) (ref : MeRef) :
    ((Store.marked outer position).me ref).bytes = fun i => if i = position then 1 else 0 := rfl

theorem pmMeIntervalSet_marked (hkeeps : cls.KeepsData) (outer : ω) (position : Nat)
    (ref : MeRef) (interval : PmInterval) :
    ((pmMeIntervalSet cls ref interval (Store.marked outer position)).me ref).bytes =
      fun i => if i = position then 1 else 0 := by
  rw [pmMeIntervalSet]
  rcases hkeeps with hinternal | hcounters
  · rw [if_pos hinternal]
    simp [MeData.bytes, Store.marked]
  · simp only [hcounters]
    split
    · simp [MeData.bytes, Store.marked]
    · split <;> exact Store.marked_bytes outer position ref

/-- An attribute that is always read as it is stored is intact. -/
theorem intact_of_attrValue (haccepted : cls.isAccepted = true)
    (hget : ∀ attr, (cls.attrs attr).get = none) (hkeeps : cls.KeepsData) {attr : Attr}
    (hexist : cls.isMeAttrExist attr = true) (outer : ω) (ref : MeRef) (interval : PmInterval)
    (hvalue : ∀ pos, cls.attrValue attr (meDataRead cls ref interval (Store.marked outer pos)).2.2 =
      cls.attrValue attr ((meDataRead cls ref interval (Store.marked outer pos)).1.me ref).bytes) :
    cls.Intact attr := by
  apply (readSource_eq_iff_intact hexist).mp
  intro pos hcovers
  obtain ⟨hbegin, hend⟩ := hcovers
  have hstored := hvalue pos
  rw [meDataRead_source haccepted hget hexist] at hstored
  dsimp only at hstored
  rw [pmMeIntervalSet_marked hkeeps] at hstored
  have hbyte := slice_eq_iff.mp hstored (pos - (cls.attrs attr).offset) (by omega)
  have hplace : (cls.attrs attr).offset + (pos - (cls.attrs attr).offset) = pos := by omega
  rw [hplace] at hbyte
  dsimp only at hbyte
  rw [if_pos rfl] at hbyte
  by_contra hne
  rw [if_neg hne] at hbyte
  exact absurd hbyte (by decide)

end Source

end FalconGpon.Omci
