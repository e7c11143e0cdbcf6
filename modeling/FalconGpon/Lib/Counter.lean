/-
# Counters that wrap around and sums that saturate

A counter of bounded width shows how often something has happened, modulo the number of
its values. The difference of two readings is the number of events between them if
there were fewer than that (`wrapSub_mod`). A sum that saturates keeps adding until it
reaches the largest value, and so always shows the smaller of that value and the exact
sum (`satAdd_min`).
-/

import Mathlib.Data.Nat.ModEq

namespace FalconGpon.Lib

/-- The difference of two readings of a counter with `values` values. -/
def wrapSub (values lhs rhs : Nat) : Nat := (lhs + (values - rhs)) % values

def satAdd (values lhs rhs : Nat) : Nat := min (values - 1) (lhs + rhs)

/-- The difference is the number of events, as long as the counter has not come around. -/
theorem wrapSub_mod {values earlier later : Nat} (hle : earlier ≤ later)
    (hlt : later < earlier + values) :
    wrapSub values (later % values) (earlier % values) = later - earlier := by
  have hvalues : 0 < values := by omega
  have hearlier : earlier % values < values := Nat.mod_lt _ hvalues
  have hcongr : later % values + (values - earlier % values) ≡ later - earlier [MOD values] := by
    have hsum : later - earlier + earlier = later := by omega
    have hcancel : values - earlier % values + earlier % values = values := by omega
    apply Nat.ModEq.add_right_cancel' (earlier % values)
    calc later % values + (values - earlier % values) + earlier % values
        = later % values + values := by omega
      _ ≡ later [MOD values] := by simp [Nat.ModEq]
      _ = later - earlier + earlier := hsum.symm
      _ ≡ later - earlier + earlier % values [MOD values] :=
          Nat.ModEq.add_left _ (Nat.mod_modEq _ _).symm
  rw [wrapSub, hcongr, Nat.mod_eq_of_lt (by omega)]

theorem satAdd_min (values lhs rhs : Nat) :
    satAdd values (min (values - 1) lhs) rhs = min (values - 1) (lhs + rhs) := by
  simp only [satAdd]
  omega

end FalconGpon.Lib
