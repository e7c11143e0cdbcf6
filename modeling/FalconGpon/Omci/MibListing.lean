/-
# Listing the MIB

`omci_me_list_get` walks all class lists under the MIB lock and fills an array of the caller with
the keys of the entities. It tests before each key whether the array is exceeded already, so one
key more than fits is written; and when the test fails, it returns without releasing the lock.
-/

import FalconGpon.Omci.MibSnapshot

namespace FalconGpon.Omci

variable {ω : Type}

/-- `sizeof(struct omci_me)`. -/
def omciMeSize : Nat := 4

/-- The progress of `omci_me_list_get`. -/
structure MeListing where
  meNum : Nat
  /-- The elements that were written, each with its position. -/
  writes : List ((ClassId × InstanceId) × Nat)
deriving DecidableEq

def MeListing.write (listing : MeListing) (key : ClassId × InstanceId) : MeListing where
  meNum := listing.meNum + 1
  writes := listing.writes ++ [(key, listing.meNum)]

/-- The inner loop of `omci_me_list_get`. -/
def meListEntries (arraySize : Nat) (classId : ClassId) :
    List MeEntry → MeListing → MeListing × OmciError
  | [], listing => (listing, .success)
  | entry :: rest, listing =>
      if arraySize / omciMeSize < listing.meNum then (listing, .bounds)
      else meListEntries arraySize classId rest (listing.write (classId, entry.instanceId))

/-- The outer loop of `omci_me_list_get`. -/
def meListClasses (arraySize : Nat) (ctx : Context ω) :
    List (MeClass ω) → MeListing → MeListing × OmciError
  | [], listing => (listing, .success)
  | cls :: rest, listing =>
      match meListEntries arraySize cls.classId (ctx.meList cls.classId) listing with
      | (listing', .success) => meListClasses arraySize ctx rest listing'
      | (listing', err) => (listing', err)

/-- What a call of `omci_me_list_get` leaves. -/
structure MeListResult where
  error : OmciError
  writes : List ((ClassId × InstanceId) × Nat)
  /-- How often the MIB lock is held. -/
  held : Nat
deriving DecidableEq

/-- `omci_me_list_get`, with pointers that are not `NULL`, called while the MIB lock is held `held`
times. -/
def omciMeListGet (table : ClassTable ω) (ctx : Context ω) (held arraySize : Nat) : MeListResult :=
  let locked := held + 1
  match meListClasses arraySize ctx table.sorted ⟨0, []⟩ with
  | (listing, .success) => ⟨.success, listing.writes, locked - 1⟩
  | (listing, err) => ⟨err, listing.writes, locked⟩

def ClassTable.keys (table : ClassTable ω) (ctx : Context ω) : List (ClassId × InstanceId) :=
  (table.entities ctx).map meKey

/-- Either every key is written, in order, or an error says that they do not fit; nothing is written
beyond the array, and the lock is released. -/
structure ListRight (keys : List (ClassId × InstanceId)) (held arraySize : Nat)
    (result : MeListResult) : Prop where
  outcome : result.error = .success ∧ result.writes = keys.zipIdx ∨
    result.error = .bounds ∧ arraySize < omciMeSize * keys.length
  within : ∀ write ∈ result.writes, omciMeSize * (write.2 + 1) ≤ arraySize
  released : result.held = held

/-- The walk over keys. -/
def meListKeys (arraySize : Nat) : List (ClassId × InstanceId) → MeListing → MeListing × OmciError
  | [], listing => (listing, .success)
  | key :: rest, listing =>
      if arraySize / omciMeSize < listing.meNum then (listing, .bounds)
      else meListKeys arraySize rest (listing.write key)

section Walk

variable {arraySize : Nat}

theorem meListEntries_eq (classId : ClassId) (entries : List MeEntry) (listing : MeListing) :
    meListEntries arraySize classId entries listing =
      meListKeys arraySize (entries.map fun entry => (classId, entry.instanceId)) listing := by
  induction entries generalizing listing with
  | nil => rfl
  | cons entry rest ih => rw [List.map_cons, meListEntries, meListKeys, ih]

theorem meListKeys_append (first second : List (ClassId × InstanceId)) (listing : MeListing) :
    meListKeys arraySize (first ++ second) listing =
      match meListKeys arraySize first listing with
      | (listing', .success) => meListKeys arraySize second listing'
      | (listing', err) => (listing', err) := by
  induction first generalizing listing with
  | nil => rfl
  | cons key rest ih =>
      rw [List.cons_append, meListKeys, meListKeys]
      by_cases hexceeded : arraySize / omciMeSize < listing.meNum
      · rw [if_pos hexceeded, if_pos hexceeded]
      · rw [if_neg hexceeded, if_neg hexceeded, ih]

theorem meListClasses_eq (ctx : Context ω) (classes : List (MeClass ω)) (listing : MeListing) :
    meListClasses arraySize ctx classes listing =
      meListKeys arraySize (classes.flatMap fun cls =>
        (ctx.meList cls.classId).map fun entry => (cls.classId, entry.instanceId)) listing := by
  induction classes generalizing listing with
  | nil => rfl
  | cons cls rest ih =>
      rw [List.flatMap_cons, meListKeys_append, meListClasses, meListEntries_eq]
      simp only [ih]

theorem ClassTable.keys_eq (table : ClassTable ω) (ctx : Context ω) :
    table.keys ctx = table.sorted.flatMap fun cls =>
      (ctx.meList cls.classId).map fun entry => (cls.classId, entry.instanceId) := by
  rw [ClassTable.keys, ClassTable.entities, List.map_flatMap]
  simp only [List.map_map]
  rfl

/-- The walk writes as many keys as fit and one more. -/
theorem meListKeys_spec (keys : List (ClassId × InstanceId)) {listing : MeListing}
    (hstart : listing.meNum ≤ arraySize / omciMeSize + 1) :
    (meListKeys arraySize keys listing).1.writes = listing.writes ++
        (keys.take (arraySize / omciMeSize + 1 - listing.meNum)).zipIdx listing.meNum ∧
      (meListKeys arraySize keys listing).2 =
        if listing.meNum + keys.length ≤ arraySize / omciMeSize + 1 then .success else .bounds := by
  induction keys generalizing listing with
  | nil =>
      rw [List.take_nil, List.zipIdx_nil, List.append_nil, List.length_nil, Nat.add_zero,
        if_pos hstart]
      exact ⟨rfl, rfl⟩
  | cons key rest ih =>
      rw [meListKeys, List.length_cons]
      by_cases hexceeded : arraySize / omciMeSize < listing.meNum
      · have hfull : arraySize / omciMeSize + 1 - listing.meNum = 0 := by omega
        have hmore : ¬listing.meNum + (rest.length + 1) ≤ arraySize / omciMeSize + 1 := by omega
        rw [if_pos hexceeded, hfull, List.take_zero, List.zipIdx_nil, List.append_nil, if_neg hmore]
        exact ⟨rfl, rfl⟩
      · have hnext : (listing.write key).meNum ≤ arraySize / omciMeSize + 1 := by
          show listing.meNum + 1 ≤ arraySize / omciMeSize + 1
          omega
        have ⟨hwrites, herror⟩ := ih hnext
        have hroom : arraySize / omciMeSize + 1 - listing.meNum =
            arraySize / omciMeSize + 1 - (listing.meNum + 1) + 1 := by omega
        rw [if_neg hexceeded, hwrites, herror, hroom, List.take_succ_cons, List.zipIdx_cons]
        constructor
        · rw [MeListing.write, List.append_assoc]
          rfl
        · rw [MeListing.write, Nat.add_right_comm, Nat.add_assoc]

end Walk

section Listing

variable {table : ClassTable ω} {ctx : Context ω} {held arraySize : Nat}

theorem omciMeListGet_eq :
    omciMeListGet table ctx held arraySize =
      if (table.keys ctx).length ≤ arraySize / omciMeSize + 1
      then ⟨.success, (table.keys ctx).zipIdx, held⟩
      else ⟨.bounds, ((table.keys ctx).take (arraySize / omciMeSize + 1)).zipIdx, held + 1⟩ := by
  have hspec := @meListKeys_spec arraySize (table.keys ctx) ⟨0, []⟩ (Nat.zero_le _)
  rw [List.nil_append, Nat.sub_zero, Nat.zero_add] at hspec
  rw [omciMeListGet, meListClasses_eq, ← ClassTable.keys_eq]
  cases hrun : meListKeys arraySize (table.keys ctx) ⟨0, []⟩ with
  | mk listing err =>
      rw [hrun] at hspec
      have ⟨hwrites, herror⟩ := hspec
      dsimp only at hwrites herror
      by_cases hfits : (table.keys ctx).length ≤ arraySize / omciMeSize + 1
      · rw [if_pos hfits] at herror ⊢
        rw [List.take_of_length_le hfits] at hwrites
        subst herror
        dsimp only
        rw [hwrites]
        rfl
      · rw [if_neg hfits] at herror ⊢
        subst herror
        dsimp only
        rw [hwrites]

theorem omciMeSize_mul_le_iff (n : Nat) :
    omciMeSize * n ≤ arraySize ↔ n ≤ arraySize / omciMeSize := by
  rw [Nat.le_div_iff_mul_le (by decide), Nat.mul_comm]

theorem listRight_of_fits (hfits : omciMeSize * (table.keys ctx).length ≤ arraySize) :
    ListRight (table.keys ctx) held arraySize (omciMeListGet table ctx held arraySize) := by
  rw [omciMeSize_mul_le_iff] at hfits
  rw [omciMeListGet_eq, if_pos (Nat.le_succ_of_le hfits)]
  exact
    { outcome := .inl ⟨rfl, rfl⟩
      within := fun write hwrite => by
        have hindex := List.snd_lt_of_mem_zipIdx hwrite
        rw [omciMeSize_mul_le_iff]
        omega
      released := rfl }

/-- If the keys do not fit, the one behind the end of the array is written. -/
theorem exists_write_beyond (hlong : arraySize / omciMeSize < (table.keys ctx).length) :
    ∃ write ∈ (omciMeListGet table ctx held arraySize).writes,
      write.2 = arraySize / omciMeSize := by
  have hwrites : (omciMeListGet table ctx held arraySize).writes =
      ((table.keys ctx).take (arraySize / omciMeSize + 1)).zipIdx := by
    rw [omciMeListGet_eq]
    by_cases hfits : (table.keys ctx).length ≤ arraySize / omciMeSize + 1
    · rw [if_pos hfits, List.take_of_length_le hfits]
    · rw [if_neg hfits]
  have hlength : arraySize / omciMeSize <
      ((table.keys ctx).take (arraySize / omciMeSize + 1)).zipIdx.length := by
    rw [List.length_zipIdx, List.length_take]
    omega
  have hindex := List.getElem_mem hlength
  rw [List.getElem_zipIdx, Nat.zero_add] at hindex
  rw [hwrites]
  exact ⟨_, hindex, rfl⟩

/-- The listing is right exactly when all keys fit. -/
theorem listRight_iff (table : ClassTable ω) (ctx : Context ω) (held arraySize : Nat) :
    ListRight (table.keys ctx) held arraySize (omciMeListGet table ctx held arraySize) ↔
      omciMeSize * (table.keys ctx).length ≤ arraySize := by
  constructor
  · intro hright
    by_contra hlong
    rw [omciMeSize_mul_le_iff, Nat.not_le] at hlong
    have ⟨write, hwrite, hindex⟩ := @exists_write_beyond _ _ _ held _ hlong
    have hwithin := (omciMeSize_mul_le_iff _).mp (hright.within write hwrite)
    rw [hindex] at hwithin
    exact Nat.not_succ_le_self _ hwithin
  · exact listRight_of_fits

/-- An array without elements, for a MIB with one entity and for one with two. -/
theorem not_listRight :
    let pair : Context Unit := (singleMe true 272 1).setMeList 272
      [⟨0, 1, true, true⟩, ⟨1, 2, true, true⟩]
    (omciMeListGet sampleTable (singleMe true 272 1) 0 0).writes = [((272, 1), 0)] ∧
      ¬ListRight (sampleTable.keys (singleMe true 272 1)) 0 0
        (omciMeListGet sampleTable (singleMe true 272 1) 0 0) ∧
      (omciMeListGet sampleTable pair 0 0).error = .bounds ∧
      (omciMeListGet sampleTable pair 0 0).held = 1 ∧
      ¬ListRight (sampleTable.keys pair) 0 0 (omciMeListGet sampleTable pair 0 0) := by
  intro pair
  have hone : omciMeListGet sampleTable (singleMe true 272 1) 0 0 =
      ⟨.success, [((272, 1), 0)], 0⟩ := rfl
  have htwo : omciMeListGet sampleTable pair 0 0 = ⟨.bounds, [((272, 1), 0)], 1⟩ := rfl
  rw [hone, htwo]
  exact ⟨rfl, fun hright => absurd (hright.within _ List.mem_cons_self) (by decide), rfl, rfl,
    fun hright => absurd hright.released (by decide)⟩

end Listing

end FalconGpon.Omci
