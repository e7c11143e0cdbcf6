/-
# Layouts of records

The fields of a record have offsets and sizes. They are laid out one after the other
when each field with a size begins where all fields in front of it end together. That is a
matter of neighbours: it suffices that each field begins at the end of the nearest field
with a size in front of it.
-/

import Mathlib.Algebra.Order.BigOperators.Group.Finset
import Mathlib.Data.Finset.Max
import Mathlib.Order.Interval.Finset.Basic

namespace FalconGpon.Lib

variable {ι : Type*} [LinearOrder ι] [LocallyFiniteOrderBot ι]

def sizeBelow (size : ι → Nat) (field : ι) : Nat := ∑ other ∈ Finset.Iio field, size other

def Sequential (offset size : ι → Nat) : Prop :=
  ∀ field, 0 < size field → offset field = sizeBelow size field

/-- Each field with a size begins at the end of the nearest one in front of it. -/
structure Adjoining (offset size : ι → Nat) : Prop where
  first : ∀ field, 0 < size field → (∀ other < field, size other = 0) → offset field = 0
  next : ∀ before field, before < field → 0 < size before → 0 < size field →
    (∀ other, before < other → other < field → size other = 0) →
      offset field = offset before + size before

variable {offset size : ι → Nat}

theorem sizeBelow_eq_zero {field : ι} (hnone : ∀ other < field, size other = 0) :
    sizeBelow size field = 0 := by
  apply Finset.sum_eq_zero
  intro other hother
  exact hnone other (Finset.mem_Iio.mp hother)

theorem insert_Iio_subset {before field : ι} (hlt : before < field) :
    insert before (Finset.Iio before) ⊆ Finset.Iio field := by
  intro other hother
  rcases Finset.mem_insert.mp hother with rfl | hmem
  · exact Finset.mem_Iio.mpr hlt
  · exact Finset.mem_Iio.mpr ((Finset.mem_Iio.mp hmem).trans hlt)

theorem sizeBelow_add_le {before field : ι} (hlt : before < field) :
    sizeBelow size before + size before ≤ sizeBelow size field := by
  calc
    _ = ∑ other ∈ insert before (Finset.Iio before), size other := by
      rw [Finset.sum_insert (by simp), Nat.add_comm, sizeBelow]
    _ ≤ _ := Finset.sum_le_sum_of_subset (insert_Iio_subset hlt)

/-- Fields without a size do not count. -/
theorem sizeBelow_eq_add {before field : ι} (hlt : before < field)
    (hnone : ∀ other, before < other → other < field → size other = 0) :
    sizeBelow size field = sizeBelow size before + size before := by
  have hrest : ∀ other ∈ Finset.Iio field, other ∉ insert before (Finset.Iio before) →
      size other = 0 := by
    intro other hother hout
    rw [Finset.mem_insert, Finset.mem_Iio, not_or, not_lt] at hout
    exact hnone other (lt_of_le_of_ne hout.2 (Ne.symm hout.1)) (Finset.mem_Iio.mp hother)
  rw [sizeBelow, ← Finset.sum_subset (insert_Iio_subset hlt) hrest, Finset.sum_insert (by simp), Nat.add_comm,
    sizeBelow]

/-- The nearest field with a size in front of another, if there is one. -/
theorem exists_nearest (size : ι → Nat) (field : ι) : (∀ other < field, size other = 0) ∨
      ∃ before < field, 0 < size before ∧
        ∀ other, before < other → other < field → size other = 0 := by
  by_cases hany : ((Finset.Iio field).filter fun other => 0 < size other).Nonempty
  · right
    obtain ⟨before, hbefore, hmax⟩ := Finset.exists_maximal hany
    obtain ⟨hlt, hsize⟩ := Finset.mem_filter.mp hbefore
    refine ⟨before, Finset.mem_Iio.mp hlt, hsize, fun other hbehind hother => ?_⟩
    by_contra hpos
    have hle : other ≤ before := hmax
      (Finset.mem_filter.mpr ⟨Finset.mem_Iio.mpr hother, Nat.pos_of_ne_zero hpos⟩) hbehind.le
    exact absurd hbehind hle.not_gt
  · left
    intro other hother
    by_contra hpos
    exact hany ⟨other, Finset.mem_filter.mpr
      ⟨Finset.mem_Iio.mpr hother, Nat.pos_of_ne_zero hpos⟩⟩

theorem Sequential.le_of_lt (h : Sequential offset size) {before field : ι}
    (hlt : before < field) (hbefore : 0 < size before) (hfield : 0 < size field) :
    offset before + size before ≤ offset field := by
  rw [h before hbefore, h field hfield]
  exact sizeBelow_add_le hlt

theorem Sequential.adjoining (h : Sequential offset size) : Adjoining offset size where
  first field hsize hnone := (h field hsize).trans (sizeBelow_eq_zero hnone)
  next before field hlt hbefore hfield hnone := by
    rw [h field hfield, h before hbefore]
    exact sizeBelow_eq_add hlt hnone

theorem Adjoining.sequential [WellFoundedLT ι] (h : Adjoining offset size) :
    Sequential offset size := by
  intro field
  induction field using WellFoundedLT.induction with
  | ind field ih =>
      intro hsize
      rcases exists_nearest size field with hnone | ⟨before, hlt, hbefore, hnone⟩
      · rw [h.first field hsize hnone, sizeBelow_eq_zero hnone]
      · rw [h.next before field hlt hbefore hsize hnone, ih before hlt hbefore,
          sizeBelow_eq_add hlt hnone]

theorem sequential_iff_adjoining [WellFoundedLT ι] :
    Sequential offset size ↔ Adjoining offset size :=
  ⟨Sequential.adjoining, Adjoining.sequential⟩

end FalconGpon.Lib
