/-
# Codes with mantissa and exponent

A code of four bits more than its mantissa stands for itself below its highest bit; with that bit
three bits of exponent and the mantissa follow, and the value has a one in front of the mantissa.
Small values are exact that way and large ones have as many digits as the mantissa.
-/

import Mathlib.Data.Nat.Bitwise
import Mathlib.Tactic.Ring

namespace FalconGpon.Lib

def mantissaValue (mantWidth code : Nat) : Nat :=
  (code % 2 ^ mantWidth + 2 ^ mantWidth) * 2 ^ (code / 2 ^ mantWidth % 8 + 3)

def floatingValue (mantWidth code : Nat) : Nat :=
  if code < 2 ^ (mantWidth + 3) then code else mantissaValue mantWidth code

variable {mantWidth code : Nat}

theorem mantissaValue_lt : mantissaValue mantWidth code < 2 ^ (mantWidth + 11) := by
  have hmant : code % 2 ^ mantWidth < 2 ^ mantWidth := Nat.mod_lt _ (Nat.two_pow_pos _)
  have hexp : 2 ^ (code / 2 ^ mantWidth % 8 + 3) ≤ 2 ^ 10 := Nat.pow_le_pow_right (by decide) (by omega)
  calc mantissaValue mantWidth code
      ≤ (code % 2 ^ mantWidth + 2 ^ mantWidth) * 2 ^ 10 := Nat.mul_le_mul_left _ hexp
    _ < (2 ^ mantWidth + 2 ^ mantWidth) * 2 ^ 10 := by omega
    _ = 2 ^ (mantWidth + 11) := by ring

theorem floatingValue_lt : floatingValue mantWidth code < 2 ^ (mantWidth + 11) := by
  unfold floatingValue
  split
  · rename_i hlt
    exact hlt.trans (Nat.pow_lt_pow_right (by decide) (by omega))
  · exact mantissaValue_lt

theorem floatingValue_pos (hcode : 0 < code) : 0 < floatingValue mantWidth code := by
  unfold floatingValue
  split
  · exact hcode
  · exact Nat.mul_pos (Nat.add_pos_right _ (Nat.two_pow_pos _)) (Nat.two_pow_pos _)

/-- A code that has more bits than its highest one stands for more than itself. -/
theorem floatingValue_eq_self_iff (hcode : code < 2 ^ (mantWidth + 4)) :
    floatingValue mantWidth code = code ↔ code ≤ 2 ^ (mantWidth + 3) := by
  unfold floatingValue
  split
  · rename_i hlt
    exact iff_of_true rfl hlt.le
  · rename_i hge
    have hpow : 2 ^ (mantWidth + 3) = 8 * 2 ^ mantWidth := by ring
    have hpow' : 2 ^ (mantWidth + 4) = 16 * 2 ^ mantWidth := by ring
    have hpos := Nat.two_pow_pos mantWidth
    -- the code is its highest bit, the exponent and the mantissa
    have hdiv : 8 ≤ code / 2 ^ mantWidth := (Nat.le_div_iff_mul_le hpos).mpr (by omega)
    have hdiv' : code / 2 ^ mantWidth < 16 := Nat.div_lt_of_lt_mul (by omega)
    have hsum := Nat.div_add_mod' code (2 ^ mantWidth)
    obtain ⟨e, hexp⟩ : ∃ e, code / 2 ^ mantWidth = 8 + e := Nat.exists_eq_add_of_le hdiv
    have hmod : (8 + e) % 8 = e := by omega
    rw [mantissaValue, hexp, hmod]
    rw [hexp] at hsum
    generalize code % 2 ^ mantWidth = m at hsum ⊢
    generalize 2 ^ mantWidth = w at hpos hpow hpow' hsum ⊢
    have hgrow : e + 1 ≤ 2 ^ e := Nat.lt_two_pow_self
    have hvalue : (m + w) * 2 ^ (e + 3) = 8 * ((m + w) * 2 ^ e) := by ring
    have hlower : (m + w) * (e + 1) ≤ (m + w) * 2 ^ e := Nat.mul_le_mul_left _ hgrow
    have hparts : (m + w) * (e + 1) = m * e + m + e * w + w := by ring
    have hcode' : (8 + e) * w = 8 * w + e * w := by ring
    rw [hvalue, hpow, ← hsum]
    constructor
    · intro heq
      omega
    · intro hle
      have he : e = 0 := by
        by_contra hne
        have : w ≤ e * w := Nat.le_mul_of_pos_left w (Nat.pos_of_ne_zero hne)
        omega
      subst he
      omega

end FalconGpon.Lib
