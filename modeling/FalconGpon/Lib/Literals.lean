/-
# Instances for literals

The numerals of an index type need that there is a first index, and the membership tests of ids
and addresses that their equality test is lawful. The widths that several tables share have a
named instance for this.
-/

import Mathlib.Algebra.GroupWithZero.Nat

namespace FalconGpon.Lib

instance neZero_three : NeZero 3 := ⟨by decide⟩

instance neZero_eight : NeZero 8 := ⟨by decide⟩

instance neZero_nine : NeZero 9 := ⟨by decide⟩

instance neZero_sixteen : NeZero 16 := ⟨by decide⟩

instance neZero_sixtyFour : NeZero 64 := ⟨by decide⟩

instance lawfulBEq_id : LawfulBEq (BitVec 16) := inferInstance

instance lawfulBEq_address : LawfulBEq (BitVec 32) := inferInstance

end FalconGpon.Lib
