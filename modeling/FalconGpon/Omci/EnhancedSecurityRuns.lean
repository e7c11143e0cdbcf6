/-
# Runs of the Enhanced Security Control ME

The tables are maps from row numbers and identifiers to rows; a status is accepted if the rows are
numbered without gap. The ME keeps them in ascending lists: the loop over challenges and results
ends at the place of a row (`rowPlace_right`), the one over the broadcast key does not look at the
first row and compares fragments only. Runs whose rows come where that loop puts them, and whose
status values are looked at, have the tables and the answers of the maps (`run_right`).
-/

import FalconGpon.Lib.AscendingTable
import FalconGpon.Lib.Transition
import FalconGpon.Omci.EnhancedSecurity

namespace FalconGpon.Omci

open FalconGpon.Lib

/-! ## The place of a row -/

section Place

variable {α : Type} {key : α → Nat}

def PlaceRight (key : α → Nat) (k : Nat) (xs : List α) : RowPlace → Prop
  | .same i => ∃ hi : i < xs.length, key xs[i] = k
  | .behind i => Gap key k xs i

def RowPlace.shift (i : Nat) : RowPlace → RowPlace
  | .same j => .same (i + j)
  | .behind j => .behind (i + j)

/-- The list is ascending, its counter is right, and it holds these rows. -/
structure RowTable.Holds (key : α → Nat) (table : RowTable α)
    (rows : Nat → Option α) : Prop where
  ascending : Ascending key table.list
  count : table.entriesNum = table.list.length
  lookup : ∀ k, findKey key k table.list = rows k

theorem RowTable.Holds.clear : (RowTable.clear : RowTable α).Holds key fun _ => none where
  ascending := Ascending.nil
  count := rfl
  lookup _ := rfl

/-- A row at its place. -/
theorem RowTable.Holds.place {table : RowTable α} {rows : Nat → Option α} {entry : α}
    {place : RowPlace} (h : table.Holds key rows) (alloc : Bool)
    (hplace : PlaceRight key (key entry) table.list place) :
    if (rows (key entry)).isSome ∨ alloc = true then
      ∃ table', table.place alloc entry place = some table' ∧
        table'.Holds key (Function.update rows (key entry) (some entry))
    else table.place alloc entry place = none := by
  have hlookup : ∀ list : List α, (∀ k, findKey key k list =
      if k = key entry then some entry else findKey key k table.list) →
      ∀ k, findKey key k list = Function.update rows (key entry) (some entry) k := by
    intro list hlist k
    rw [hlist k, h.lookup, Function.update_apply]
  cases place with
  | same i =>
      have ⟨hi, hkey⟩ := hplace
      have hfound : (rows (key entry)).isSome = true := by
        rw [← h.lookup, findKey, List.find?_isSome]
        exact ⟨_, List.getElem_mem hi, decide_eq_true hkey⟩
      rw [if_pos (Or.inl hfound)]
      exact ⟨_, rfl, h.ascending.set hi hkey, h.count.trans List.length_set.symm,
        hlookup _ fun k => findKey_set h.ascending hi hkey⟩
  | behind i =>
      have hgap : Gap key (key entry) table.list i := hplace
      have hnew : rows (key entry) = none := by
        rw [← h.lookup]
        exact findKey_eq_none fun y hy => hgap.ne hy
      rw [hnew, Option.isSome_none, RowTable.place]
      cases alloc with
      | false => rfl
      | true =>
          have hlength : (table.list.insertIdx i entry).length = table.list.length + 1 :=
            List.length_insertIdx_of_le_length hgap.le_length _
          exact ⟨_, rfl, h.ascending.insertIdx hgap, (congrArg (· + 1) h.count).trans hlength.symm,
            hlookup _ fun k => findKey_insertIdx hgap⟩

theorem PlaceRight.cons {le : α} {rest : List α} {k : Nat} {place : RowPlace}
    (h : PlaceRight key k rest place) (hle : key le < k) :
    PlaceRight key k (le :: rest) (place.shift 1) := by
  cases place with
  | same i =>
      have ⟨hi, hkey⟩ := h
      rw [RowPlace.shift, Nat.add_comm]
      exact ⟨Nat.succ_lt_succ hi, hkey⟩
  | behind i =>
      rw [RowPlace.shift, Nat.add_comm]
      exact Gap.cons h hle

end Place

@[simp] theorem RowPlace.shift_same (i j : Nat) : (RowPlace.same j).shift i = .same (i + j) :=
  rfl

@[simp] theorem RowPlace.shift_behind (i j : Nat) : (RowPlace.behind j).shift i = .behind (i + j) :=
  rfl

@[simp] theorem RowPlace.shift_zero (place : RowPlace) : place.shift 0 = place := by
  cases place <;> simp [RowPlace.shift]

@[simp] theorem RowPlace.shift_shift (place : RowPlace) (i j : Nat) :
    (place.shift i).shift j = place.shift (j + i) := by
  cases place <;> simp [RowPlace.shift, Nat.add_assoc]

theorem rowPlace_eq_shift (rowNumber : BitVec 8) (i : Nat) (le : RowEntry) (rest : List RowEntry) :
    rowPlace rowNumber i (le :: rest) = (rowPlace rowNumber 0 (le :: rest)).shift i := by
  induction rest generalizing le i with
  | nil =>
      rw [rowPlace, rowPlace]
      repeat' split
      all_goals simp
  | cons nle rest ih =>
      rw [rowPlace, rowPlace]
      simp only [ih (i + 1), ih (0 + 1)]
      repeat' split
      all_goals simp

/-- The loop over challenges and results ends at the place of the row. -/
theorem rowPlace_right {rowNumber : BitVec 8} {xs : List RowEntry}
    (hascending : Ascending RowEntry.key xs) (hpositive : ∀ le ∈ xs, le.rowNumber ≠ 0) :
    PlaceRight RowEntry.key rowNumber.toNat xs (rowPlace rowNumber 0 xs) := by
  induction xs with
  | nil => exact Gap.front nofun
  | cons le rest ih =>
      have ⟨hhead, hrest⟩ := List.pairwise_cons.mp hascending
      rw [rowPlace.eq_def]
      dsimp only
      split
      · rename_i hsame
        exact ⟨Nat.succ_pos _, congrArg BitVec.toNat hsame⟩
      · rename_i hother
        split
        · rename_i hlt
          exact Gap.front (List.forall_mem_cons.mpr ⟨hlt, fun y hy => Nat.lt_trans hlt (hhead y hy)⟩)
        · rename_i hge
          have hle : le.key < rowNumber.toNat := by
            have hne : le.key ≠ rowNumber.toNat := fun heq => hother (BitVec.eq_of_toNat_eq heq)
            exact Nat.lt_of_le_of_ne (Nat.le_of_not_lt hge) hne
          cases rest with
          | nil => exact Gap.cons (Gap.front nofun) hle
          | cons nle more =>
              have ⟨hnext, _⟩ := List.pairwise_cons.mp hrest
              have hnonzero : nle.rowNumber ≠ 0 :=
                hpositive nle (List.mem_cons_of_mem _ List.mem_cons_self)
              simp only [hnonzero, false_or]
              split
              · rename_i hlt
                exact Gap.cons (Gap.front (List.forall_mem_cons.mpr
                  ⟨hlt, fun y hy => Nat.lt_trans hlt (hnext y hy)⟩)) hle
              · rw [rowPlace_eq_shift]
                exact (ih hrest fun y hy => hpositive y (List.mem_cons_of_mem _ hy)).cons hle

/-! ## Rows without gap -/

/-- The rows present are those with the numbers from 1 to `n`. -/
def Complete (rows : Nat → Option RowEntry) (n : Nat) : Prop :=
  ∀ k, (rows k).isSome = true ↔ 1 ≤ k ∧ k ≤ n

theorem mem_of_rowsFrom {index : Nat} {xs : List RowEntry} (h : rowsFrom index xs = true) (k : Nat) :
    (∃ le ∈ xs, le.key = k) ↔ index ≤ k ∧ k < index + xs.length := by
  induction xs generalizing index with
  | nil =>
      simp
  | cons le rest ih =>
      rw [rowsFrom, Bool.and_eq_true, decide_eq_true_iff] at h
      have hle : le.key = index := h.1
      rw [List.exists_mem_cons_iff, ih h.2, hle, List.length_cons]
      omega

theorem rowsFrom_of_mem {index bound : Nat} {xs : List RowEntry}
    (hascending : Ascending RowEntry.key xs)
    (h : ∀ k, (∃ le ∈ xs, le.key = k) ↔ index ≤ k ∧ k < bound) : rowsFrom index xs = true := by
  induction xs generalizing index with
  | nil => rfl
  | cons le rest ih =>
      have ⟨hhead, hrest⟩ := List.pairwise_cons.mp hascending
      have hrange := (h le.key).mp ⟨le, List.mem_cons_self, rfl⟩
      have ⟨first, hfirst, hkey⟩ := (h index).mpr (by omega)
      have hle : le.key = index := by
        cases List.mem_cons.mp hfirst with
        | inl hsame => exact hsame ▸ hkey
        | inr hmore =>
            have hlt := hhead first hmore
            omega
      rw [rowsFrom, Bool.and_eq_true, decide_eq_true_iff]
      refine ⟨hle, ih hrest fun k => ?_⟩
      have hk := h k
      rw [List.exists_mem_cons_iff, hle] at hk
      constructor
      · intro ⟨e, he, hek⟩
        have hlt := hhead e he
        have hin := hk.mp (Or.inr ⟨e, he, hek⟩)
        omega
      · intro hin
        cases hk.mpr (by omega) with
        | inl heq => omega
        | inr hmore => exact hmore

/-- The check of the update handlers. -/
theorem RowTable.Holds.complete_iff {table : RowTable RowEntry} {rows : Nat → Option RowEntry}
    (h : table.Holds RowEntry.key rows) (n : Nat) :
    Complete rows n ↔ rowsFrom 1 table.list = true ∧ table.entriesNum = n := by
  have hmem : ∀ k, (rows k).isSome = true ↔ ∃ le ∈ table.list, le.key = k := by
    intro k
    rw [← h.lookup, findKey, List.find?_isSome]
    simp only [decide_eq_true_iff]
  rw [h.count]
  constructor
  · intro hcomplete
    have hrows : rowsFrom 1 table.list = true := by
      apply @rowsFrom_of_mem 1 (n + 1) _ h.ascending
      intro k
      rw [← hmem, hcomplete k]
      omega
    refine ⟨hrows, ?_⟩
    have hboth : ∀ k, 1 ≤ k ∧ k ≤ n ↔ 1 ≤ k ∧ k < 1 + table.list.length := by
      intro k
      rw [← hcomplete k, hmem, mem_of_rowsFrom hrows]
    have hn := hboth n
    have hlength := hboth table.list.length
    omega
  · rintro ⟨hrows, hcount⟩ k
    rw [hmem, mem_of_rowsFrom hrows, hcount]
    omega

/-! ## The rows of the broadcast key -/

def rowsBelow (rowIdentifier : BitVec 8) (xs : List BroadcastKeyEntry) : List BroadcastKeyEntry :=
  xs.filter (·.key < rowIdentifier.toNat)

def rowsAbove (rowIdentifier : BitVec 8) (xs : List BroadcastKeyEntry) : List BroadcastKeyEntry :=
  xs.filter (rowIdentifier.toNat < ·.key)

def NoLarger (rowIdentifier : BitVec 8) (xs : List BroadcastKeyEntry) : Prop :=
  ∀ le ∈ xs, ¬ fragment rowIdentifier < fragment le.rowIdentifier

/-- The rows among which the loop finds the place of an identifier: up to it, but for the first
row, none has a larger fragment. A row that is new comes in front of all rows, of which again only
the first one has a larger fragment, or behind a row and in front of one with a larger fragment. -/
structure FragmentsRight (rowIdentifier : BitVec 8) (xs : List BroadcastKeyEntry) : Prop where
  below : NoLarger rowIdentifier (rowsBelow rowIdentifier xs).tail
  fresh : (∀ le ∈ xs, le.rowIdentifier ≠ rowIdentifier) →
    match rowsBelow rowIdentifier xs, rowsAbove rowIdentifier xs with
    | [], above => NoLarger rowIdentifier above.tail
    | _ :: _, next :: _ => fragment rowIdentifier < fragment next.rowIdentifier
    | _ :: _, [] => False

/-- The loop goes on over rows without a larger fragment. -/
theorem broadcastKeyPlace_append {rowIdentifier : BitVec 8} {le : BroadcastKeyEntry}
    {skipped rest : List BroadcastKeyEntry} (hle : le.rowIdentifier ≠ rowIdentifier)
    (hskipped : ∀ e ∈ skipped, e.rowIdentifier ≠ rowIdentifier)
    (hsmall : NoLarger rowIdentifier skipped) (i : Nat) :
    broadcastKeyPlace rowIdentifier i (le :: (skipped ++ rest)) =
      match rest with
      | [] => .behind 0
      | nle :: _ =>
          if fragment rowIdentifier < fragment nle.rowIdentifier then
            .behind (i + skipped.length + 1)
          else broadcastKeyPlace rowIdentifier (i + skipped.length + 1) rest := by
  induction skipped generalizing le i with
  | nil =>
      rw [List.nil_append, broadcastKeyPlace.eq_def]
      dsimp only
      rw [if_neg hle]
      rfl
  | cons first skipped ih =>
      have hfirst := hskipped first List.mem_cons_self
      have hshift : i + 1 + skipped.length + 1 = i + (first :: skipped).length + 1 := by
        rw [List.length_cons]
        omega
      rw [List.cons_append, broadcastKeyPlace, if_neg hle, if_neg (hsmall first List.mem_cons_self),
        ih hfirst (fun e he => hskipped e (List.mem_cons_of_mem _ he))
          (fun e he => hsmall e (List.mem_cons_of_mem _ he)), hshift]

/-- The loop over the broadcast key ends at the place of such a row. -/
theorem broadcastKeyPlace_right {rowIdentifier : BitVec 8} {xs : List BroadcastKeyEntry}
    (hascending : Ascending BroadcastKeyEntry.key xs) (hright : FragmentsRight rowIdentifier xs) :
    PlaceRight BroadcastKeyEntry.key rowIdentifier.toNat xs
      (broadcastKeyPlace rowIdentifier 0 xs) := by
  have hparts := hascending.eq_parts rowIdentifier.toNat
  obtain ⟨hsmall, hfresh⟩ := hright
  have hbelow : ∀ y ∈ rowsBelow rowIdentifier xs, y.key < rowIdentifier.toNat :=
    fun y hy => of_decide_eq_true (List.mem_filter.mp hy).2
  have habove : ∀ y ∈ rowsAbove rowIdentifier xs, rowIdentifier.toNat < y.key :=
    fun y hy => of_decide_eq_true (List.mem_filter.mp hy).2
  have hne : ∀ y : BroadcastKeyEntry, y.key ≠ rowIdentifier.toNat →
      y.rowIdentifier ≠ rowIdentifier := fun y hy heq => hy (congrArg BitVec.toNat heq)
  change xs = rowsBelow rowIdentifier xs ++ _ ++ rowsAbove rowIdentifier xs at hparts
  cases hfind : findKey BroadcastKeyEntry.key rowIdentifier.toNat xs with
  | some le =>
      have hkey : le.key = rowIdentifier.toNat := key_findKey hfind
      have hle : le.rowIdentifier = rowIdentifier := BitVec.eq_of_toNat_eq hkey
      rw [hfind] at hparts
      generalize rowsBelow rowIdentifier xs = below at hparts hsmall hbelow
      generalize rowsAbove rowIdentifier xs = above at hparts habove
      subst hparts
      cases below with
      | nil =>
          have hplace : broadcastKeyPlace rowIdentifier 0 (le :: above) = .same 0 := by
            rw [broadcastKeyPlace.eq_def]
            exact if_pos hle
          exact hplace ▸ ⟨Nat.succ_pos _, congrArg BitVec.toNat hle⟩
      | cons first rest =>
          have hfirst := hne first (hbelow first List.mem_cons_self).ne
          have hrest : ∀ e ∈ rest, e.rowIdentifier ≠ rowIdentifier :=
            fun e he => hne e (hbelow e (List.mem_cons_of_mem _ he)).ne
          have hplace : broadcastKeyPlace rowIdentifier 0 (first :: (rest ++ le :: above)) =
              .same (rest.length + 1) := by
            rw [broadcastKeyPlace_append hfirst hrest hsmall]
            dsimp only
            rw [hle, if_neg (BitVec.lt_irrefl _), broadcastKeyPlace.eq_def, Nat.zero_add]
            exact if_pos hle
          have hlist : first :: rest ++ (some le).toList ++ above =
              first :: (rest ++ le :: above) := by simp
          rw [hlist, hplace]
          refine ⟨by simp, ?_⟩
          simpa using hkey
  | none =>
      have hnew : ∀ le ∈ xs, le.rowIdentifier ≠ rowIdentifier := by
        intro le hle heq
        rw [findKey, List.find?_eq_none] at hfind
        exact hfind le hle (decide_eq_true (congrArg BitVec.toNat heq))
      have hplaces := hfresh hnew
      rw [hfind] at hparts
      generalize rowsBelow rowIdentifier xs = below at hparts hsmall hbelow hplaces
      generalize rowsAbove rowIdentifier xs = above at hparts habove hplaces
      subst hparts
      have hlist : below ++ (none : Option BroadcastKeyEntry).toList ++ above = below ++ above := by
        simp
      rw [hlist] at hnew ⊢
      have hother : ∀ le ∈ below ++ above, le.rowIdentifier ≠ rowIdentifier := hnew
      have hgap : Gap BroadcastKeyEntry.key rowIdentifier.toNat (below ++ above) below.length :=
        Gap.append hbelow habove
      cases below with
      | nil =>
        cases above with
        | nil => exact hgap
        | cons first rest =>
          have hplace : broadcastKeyPlace rowIdentifier 0 (first :: (rest ++ [])) = .behind 0 :=
            broadcastKeyPlace_append (hother first List.mem_cons_self)
              (fun e he => hother e (List.mem_cons_of_mem _ he)) hplaces 0
          rw [List.append_nil] at hplace
          rw [List.nil_append, hplace]
          exact hgap
      | cons first rest =>
        cases above with
        | nil => exact hplaces.elim
        | cons next more =>
          have hrest : ∀ e ∈ rest, e.rowIdentifier ≠ rowIdentifier :=
            fun e he => hother e (List.mem_append_left _ (List.mem_cons_of_mem _ he))
          have hplace : broadcastKeyPlace rowIdentifier 0 (first :: (rest ++ next :: more)) =
              .behind (rest.length + 1) := by
            rw [broadcastKeyPlace_append (hother first List.mem_cons_self) hrest hsmall]
            dsimp only
            rw [if_pos hplaces, Nat.zero_add]
          rw [List.cons_append, hplace]
          exact hgap

/-! ## The tables as maps -/

/-- The tables as maps from numbers and identifiers to rows, and what the key is. -/
structure EnhSecTables where
  oltRandomChl : Nat → Option RowEntry
  oltAuthResult : Nat → Option RowEntry
  broadcastKey : Nat → Option BroadcastKeyEntry
  selected : BitVec 8
  keyLength : BitVec 16

namespace EnhSecTables

/-- Empty tables. -/
def init (data : EnhSecData) : EnhSecTables where
  oltRandomChl := fun _ => none
  oltAuthResult := fun _ => none
  broadcastKey := fun _ => none
  selected := data.onuSelectedCryptoCaps
  keyLength := data.effectiveKeyLength

def write {α : Type} (alloc : Bool) (rows : Nat → Option α) (k : Nat) (entry : α) :
    Option (Nat → Option α) :=
  if (rows k).isSome ∨ alloc then some (Function.update rows k (some entry)) else none

def writeRow (alloc : Bool) (rows : Nat → Option RowEntry) (entry : RowEntry) :
    Option (Nat → Option RowEntry) :=
  if entry.rowNumber = 0 then some fun _ => none else write alloc rows entry.key entry

/-- The row control says what is done with a row. -/
def writeKey (alloc : Bool) (rows : Nat → Option BroadcastKeyEntry) (entry : BroadcastKeyEntry) :
    Option (Nat → Option BroadcastKeyEntry) :=
  match entry.control with
  | .reserved => none
  | .tableClear => some fun _ => none
  | .rowClear =>
      if (rows entry.key).isSome then some (Function.update rows entry.key none) else none
  | .rowSet => write alloc rows entry.key entry

open Classical in
/-- A challenge without gap is accepted and used up. -/
noncomputable def chlStatus (tables : EnhSecTables) (status : Bool) : EnhSecTables × Bool :=
  if !status then (tables, true)
  else if ∃ n, Complete tables.oltRandomChl n then
    ({ tables with oltRandomChl := fun _ => none }, true)
  else (tables, false)

open Classical in
/-- A result without gap that has the length of the key is accepted and used up. -/
noncomputable def resultStatus (tables : EnhSecTables) (status : Bool) : EnhSecTables × Bool :=
  if !status then (tables, true)
  else if ∃ n, Complete tables.oltAuthResult n ∧ tables.keyLength.toNat / 8 = n * 16 then
    ({ tables with oltAuthResult := fun _ => none }, true)
  else (tables, false)

/-- The challenge of the OLT. -/
def setChl (alloc : Bool) (tables : EnhSecTables) (msg : EnhSecSet) : EnhSecTables × Bool :=
  match msg.long with
  | some (.oltRandomChlTable entry) =>
      match writeRow alloc tables.oltRandomChl entry with
      | some rows => ({ tables with oltRandomChl := rows }, true)
      | none => (tables, false)
  | _ => (tables, true)

/-- The result of the OLT. -/
def setResult (alloc : Bool) (tables : EnhSecTables) (msg : EnhSecSet) : EnhSecTables × Bool :=
  match msg.long with
  | some (.oltAuthResultTable entry) =>
      match writeRow alloc tables.oltAuthResult entry with
      | some rows => ({ tables with oltAuthResult := rows }, true)
      | none => (tables, false)
  | _ => (tables, true)

/-- The broadcast key; before capabilities are selected none is written. -/
def setKey (alloc : Bool) (tables : EnhSecTables) (msg : EnhSecSet) : EnhSecTables × Bool :=
  match msg.long with
  | some (.broadcastKeyTable entry) =>
      if tables.selected = 0 then (tables, true)
      else
        match writeKey alloc tables.broadcastKey entry with
        | some rows => ({ tables with broadcastKey := rows }, true)
        | none => (tables, false)
  | _ => (tables, true)

/-- The capabilities that are selected, and the length of their key. -/
def capsOf (tables : EnhSecTables) (msg : EnhSecSet) : Option (BitVec 8 × BitVec 16) :=
  match msg.long with
  | some (.oltCryptoCaps last) =>
      if last = 0 then some (tables.selected, tables.keyLength)
      else if last.getLsbD 0 then some (1, 128)
      else none
  | _ => some (tables.selected, tables.keyLength)

/-- A SET: the attributes in their order, and the capabilities if none is refused. -/
noncomputable def set (alloc : Bool) (tables : EnhSecTables) (msg : EnhSecSet) :
    EnhSecTables × Bool :=
  if !msg.isValid then (tables, false)
  else
    match tables.capsOf msg with
    | none => (tables, false)
    | some caps =>
        returnIfError (tables.setChl alloc msg) fun tables =>
        returnIfError (tables.chlStatus (msg.oltChlStatus = some 1)) fun tables =>
        returnIfError (tables.setResult alloc msg) fun tables =>
        returnIfError (tables.resultStatus (msg.oltResultStatus = some 1)) fun tables =>
        returnIfError (tables.setKey alloc msg) fun tables =>
        ({ tables with selected := caps.1, keyLength := caps.2 }, true)

end EnhSecTables

/-- The ME has the rows of the maps, in ascending lists. -/
structure EnhSecCtrl.Holds (me : EnhSecCtrl) (tables : EnhSecTables) : Prop where
  oltRandomChl : me.oltRandomChl.Holds RowEntry.key tables.oltRandomChl
  oltAuthResult : me.oltAuthResult.Holds RowEntry.key tables.oltAuthResult
  broadcastKey : me.broadcastKey.Holds BroadcastKeyEntry.key tables.broadcastKey
  /-- No row has the number 0. -/
  positive : tables.oltRandomChl 0 = none ∧ tables.oltAuthResult 0 = none
  selected : tables.selected = me.data.onuSelectedCryptoCaps
  keyLength : tables.keyLength = me.data.effectiveKeyLength

/-! ## The parts of a SET -/

section Parts

variable {env : EnhSecEnv} {me : EnhSecCtrl} {tables : EnhSecTables} {msg : EnhSecSet}
  {upd : EnhSecData}

/-- A list and a map come to the same end, and agree if they are changed. -/
def TablesAgree {α : Type} (key : α → Nat) : Option (RowTable α) → Option (Nat → Option α) → Prop
  | some table, some rows => table.Holds key rows
  | none, none => True
  | _, _ => False

theorem TablesAgree.cases {α : Type} {key : α → Nat} {set : Option (RowTable α)}
    {write : Option (Nat → Option α)} (h : TablesAgree key set write) :
    set = none ∧ write = none ∨
      ∃ table rows, set = some table ∧ write = some rows ∧ table.Holds key rows := by
  match set, write with
  | none, none => exact .inl ⟨rfl, rfl⟩
  | some table, some rows => exact .inr ⟨table, rows, rfl, rfl, h⟩

/-- A row that is written at its place. -/
theorem place_agrees {α : Type} {key : α → Nat} {table : RowTable α} {rows : Nat → Option α}
    {entry : α} {place : RowPlace} (h : table.Holds key rows) (alloc : Bool)
    (hplace : PlaceRight key (key entry) table.list place) :
    TablesAgree key (table.place alloc entry place)
      (EnhSecTables.write alloc rows (key entry) entry) := by
  have hplaced := h.place alloc hplace
  rw [EnhSecTables.write]
  split at hplaced
  · rename_i hroom
    have ⟨table', htable, hholds⟩ := hplaced
    rw [htable, if_pos hroom]
    exact hholds
  · rename_i hfull
    rw [hplaced, if_neg hfull]
    trivial

/-- A row of a challenge or a result. -/
theorem rowEntrySet_agrees {table : RowTable RowEntry} {rows : Nat → Option RowEntry}
    {entry : RowEntry} (h : table.Holds RowEntry.key rows) (hzero : rows 0 = none) (alloc : Bool) :
    TablesAgree RowEntry.key (rowEntrySet alloc table entry)
      (EnhSecTables.writeRow alloc rows entry) := by
  rw [rowEntrySet, EnhSecTables.writeRow]
  by_cases hclear : entry.rowNumber = 0
  · rw [if_pos hclear, if_pos hclear]
    exact RowTable.Holds.clear
  · have hpositive : ∀ le ∈ table.list, le.rowNumber ≠ 0 := by
      intro le hle hle0
      have hfound : findKey RowEntry.key 0 table.list = some le :=
        (findKey_eq_some_iff h.ascending).mpr ⟨hle, congrArg BitVec.toNat hle0⟩
      rw [h.lookup, hzero] at hfound
      cases hfound
    have hright : PlaceRight RowEntry.key entry.key table.list
        (rowPlace entry.rowNumber 0 table.list) := rowPlace_right h.ascending hpositive
    rw [if_neg hclear, if_neg hclear]
    exact place_agrees h alloc hright

theorem writeRow_zero {alloc : Bool} {rows rows' : Nat → Option RowEntry} {entry : RowEntry}
    (hzero : rows 0 = none) (hwrite : EnhSecTables.writeRow alloc rows entry = some rows') :
    rows' 0 = none := by
  rw [EnhSecTables.writeRow] at hwrite
  split at hwrite
  · cases hwrite
    rfl
  · rename_i hrow
    have hkey : entry.key ≠ 0 := fun heq => hrow (BitVec.eq_of_toNat_eq heq)
    rw [EnhSecTables.write] at hwrite
    split at hwrite
    · cases hwrite
      exact (Function.update_of_ne hkey.symm _ _).trans hzero
    · cases hwrite

/-- A row of the broadcast key. -/
theorem broadcastKeyEntrySet_agrees {table : RowTable BroadcastKeyEntry}
    {rows : Nat → Option BroadcastKeyEntry} {entry : BroadcastKeyEntry}
    (h : table.Holds BroadcastKeyEntry.key rows) (alloc : Bool)
    (hright : entry.control = .rowSet → FragmentsRight entry.rowIdentifier table.list) :
    TablesAgree BroadcastKeyEntry.key (broadcastKeyEntrySet alloc table entry)
      (EnhSecTables.writeKey alloc rows entry) := by
  rw [broadcastKeyEntrySet, EnhSecTables.writeKey]
  cases hcontrol : entry.control with
  | reserved => trivial
  | tableClear => exact RowTable.Holds.clear
  | rowClear =>
      have hpresent : (rows entry.key).isSome = true ↔
          table.list.any (·.rowIdentifier = entry.rowIdentifier) = true := by
        rw [← h.lookup, findKey, List.find?_isSome, List.any_eq_true]
        simp only [decide_eq_true_iff, BroadcastKeyEntry.key, BitVec.toNat_inj]
      simp only [broadcastKeyRowClear, hpresent]
      split
      · rename_i hany
        have hsame : table.list.eraseP (·.rowIdentifier = entry.rowIdentifier) =
            table.list.eraseP (·.key = entry.key) := by
          simp only [BroadcastKeyEntry.key, BitVec.toNat_inj]
        have hlookup : ∀ k, findKey BroadcastKeyEntry.key k
            (table.list.eraseP (·.key = entry.key)) =
              Function.update rows entry.key none k := by
          intro k
          rw [findKey_eraseP h.ascending, h.lookup, Function.update_apply]
        rw [hsame]
        have hany' : table.list.any (·.key = entry.key) = true := by
          simpa only [BroadcastKeyEntry.key, BitVec.toNat_inj] using hany
        obtain ⟨le, hle, hkey⟩ := List.any_eq_true.mp hany'
        exact
          { ascending := h.ascending.sublist (List.eraseP_sublist ..)
            count := by
              rw [List.length_eraseP_of_mem hle hkey]
              exact congrArg (· - 1) h.count
            lookup := hlookup }
      · trivial
  | rowSet => exact place_agrees h alloc (broadcastKeyPlace_right h.ascending (hright hcontrol))

/-- A handler and the maps come to the same answer, and agree behind it. -/
structure SetAgrees (result : EnhSecCtrl × Bool) (result' : EnhSecTables × Bool) : Prop where
  holds : result.1.Holds result'.1
  answer : result.2 = result'.2

theorem SetAgrees.returnIfError {done : EnhSecCtrl × Bool} {done' : EnhSecTables × Bool}
    {next : EnhSecCtrl → EnhSecCtrl × Bool} {next' : EnhSecTables → EnhSecTables × Bool}
    (h : SetAgrees done done') (hnext : done.2 = true → SetAgrees (next done.1) (next' done'.1)) :
    SetAgrees (returnIfError done next) (returnIfError done' next') := by
  rw [Omci.returnIfError, Omci.returnIfError, ← h.answer]
  split
  · rename_i hok
    exact hnext hok
  · exact h

theorem updateChl_agrees (h : me.Holds tables) {caps : BitVec 8 × BitVec 16}
    (hcaps : tables.capsOf msg = some caps) :
    SetAgrees (EnhSecCtrl.updateChl env me msg upd).1 (tables.setChl env.rowAlloc msg) := by
  rw [EnhSecCtrl.updateChl, EnhSecTables.setChl]
  rw [EnhSecTables.capsOf] at hcaps
  split
  · rename_i last hlong
    simp only [hlong] at hcaps ⊢
    refine ⟨h, ?_⟩
    rw [EnhSecCtrl.oltCryptoCapsUpdateAction]
    dsimp only
    split at hcaps
    · rename_i hzero
      rw [if_pos hzero]
    · rename_i hnonzero
      split at hcaps
      · rename_i hbit
        rw [if_neg hnonzero, if_pos hbit]
      · cases hcaps
  · rename_i entry hlong
    have hagrees : TablesAgree RowEntry.key (rowEntrySet env.rowAlloc me.oltRandomChl entry)
        (EnhSecTables.writeRow env.rowAlloc tables.oltRandomChl entry) :=
      rowEntrySet_agrees h.oltRandomChl h.positive.1 env.rowAlloc
    simp only [hlong, EnhSecCtrl.oltRandomChlTblEntrySet]
    rcases hagrees.cases with ⟨hset, hwrite⟩ | ⟨table, rows, hset, hwrite, hholds⟩
    · rw [hset, hwrite]
      exact ⟨h, rfl⟩
    · rw [hset, hwrite]
      exact
        { holds := { h with
            oltRandomChl := hholds
            positive := ⟨writeRow_zero h.positive.1 hwrite, h.positive.2⟩ }
          answer := rfl }
  · rename_i hcapsno hrowno
    split
    · rename_i entry hlong
      exact absurd hlong (hrowno entry)
    · exact ⟨h, rfl⟩

def EnhSecEnv.Generates (env : EnhSecEnv) (data : EnhSecData) : Prop :=
  env.alloc = true ∧ data.keyLen ≠ 0 ∧ env.random.isSome = true ∧
    (data.keyLen + 15) / 16 ≤ env.onuRows ∧ env.avc = true

theorem oltChlStatus_agrees (h : me.Holds tables) {status : Bool}
    (hgenerates : status = true → rowsFrom 1 me.oltRandomChl.list = true →
      env.Generates me.data) :
    SetAgrees (EnhSecCtrl.oltChlStatusUpdateAction env me status) (tables.chlStatus status) := by
  rw [EnhSecCtrl.oltChlStatusUpdateAction, EnhSecTables.chlStatus]
  cases status with
  | false => exact ⟨h, rfl⟩
  | true =>
      have hcomplete : (∃ n, Complete tables.oltRandomChl n) ↔
          rowsFrom 1 me.oltRandomChl.list = true := by
        simp only [h.oltRandomChl.complete_iff, exists_and_left, exists_eq', and_true]
      simp only [Bool.not_true, Bool.false_eq_true, if_false, hcomplete]
      by_cases hrows : rowsFrom 1 me.oltRandomChl.list = true
      · have ⟨halloc, hlen, hrandom, hroom, havc⟩ := hgenerates rfl hrows
        have ⟨random, hsome⟩ := Option.isSome_iff_exists.mp hrandom
        simp only [hrows, halloc, Bool.not_true, Bool.false_eq_true, if_false, if_true,
          EnhSecCtrl.onuRandomChlGenerate, hlen, hsome, hroom, havc, decide_true, Bool.and_self]
        exact
          { holds := { h with
              oltRandomChl := RowTable.Holds.clear
              positive := ⟨rfl, h.positive.2⟩ }
            answer := rfl }
      · simp only [hrows, Bool.not_false, if_true, Bool.false_eq_true, if_false]
        exact ⟨h, rfl⟩

theorem updateResult_agrees (h : me.Holds tables) :
    SetAgrees (EnhSecCtrl.updateResult env me msg) (tables.setResult env.rowAlloc msg) := by
  by_cases hresult : ∃ entry, msg.long = some (.oltAuthResultTable entry)
  · have ⟨entry, hlong⟩ := hresult
    have hstatus : EnhSecCtrl.Holds (if me.oltAuthResult.entriesNum = 0 then
        { me with data := { me.data with oltResultStatus := false } } else me) tables := by
      split
      · exact { h with }
      · exact h
    have hagrees : TablesAgree RowEntry.key (rowEntrySet env.rowAlloc me.oltAuthResult entry)
        (EnhSecTables.writeRow env.rowAlloc tables.oltAuthResult entry) :=
      rowEntrySet_agrees h.oltAuthResult h.positive.2 env.rowAlloc
    have hsame : (if me.oltAuthResult.entriesNum = 0 then
        { me with data := { me.data with oltResultStatus := false } } else me).oltAuthResult =
          me.oltAuthResult := by
      split <;> rfl
    simp only [EnhSecCtrl.updateResult, EnhSecTables.setResult, hlong,
      EnhSecCtrl.oltAuthResultTblEntrySet, hsame]
    rcases hagrees.cases with ⟨hset, hwrite⟩ | ⟨table, rows, hset, hwrite, hholds⟩
    · rw [hset, hwrite]
      exact ⟨hstatus, rfl⟩
    · rw [hset, hwrite]
      exact
        { holds := { hstatus with
            oltAuthResult := hholds
            positive := ⟨hstatus.positive.1, writeRow_zero h.positive.2 hwrite⟩ }
          answer := rfl }
  · have hme : EnhSecCtrl.updateResult env me msg = (me, true) := by
      rw [EnhSecCtrl.updateResult]
      split
      · exact absurd ⟨_, ‹_›⟩ hresult
      · rfl
    have htables : tables.setResult env.rowAlloc msg = (tables, true) := by
      rw [EnhSecTables.setResult]
      split
      · exact absurd ⟨_, ‹_›⟩ hresult
      · rfl
    rw [hme, htables]
    exact ⟨h, rfl⟩

theorem oltResultStatus_agrees (h : me.Holds tables) (status : Bool) :
    SetAgrees (EnhSecCtrl.oltResultStatusUpdateAction me status) (tables.resultStatus status) := by
  rw [EnhSecCtrl.oltResultStatusUpdateAction, EnhSecTables.resultStatus]
  cases status with
  | false => exact ⟨h, rfl⟩
  | true =>
      have hcomplete : (∃ n, Complete tables.oltAuthResult n ∧
          tables.keyLength.toNat / 8 = n * 16) ↔
            rowsFrom 1 me.oltAuthResult.list = true ∧
              me.data.keyLen = me.oltAuthResult.entriesNum * 16 := by
        simp only [h.oltAuthResult.complete_iff, h.keyLength, EnhSecData.keyLen]
        constructor
        · intro ⟨n, ⟨hrows, hcount⟩, hlength⟩
          exact ⟨hrows, hcount ▸ hlength⟩
        · intro ⟨hrows, hlength⟩
          exact ⟨_, ⟨hrows, rfl⟩, hlength⟩
      simp only [Bool.not_true, Bool.false_eq_true, if_false, hcomplete]
      by_cases hlength : me.data.keyLen = me.oltAuthResult.entriesNum * 16
      · by_cases hrows : rowsFrom 1 me.oltAuthResult.list = true
        · simp only [hlength, hrows, ne_eq, not_true_eq_false, if_false, Bool.not_true,
            Bool.false_eq_true, and_self, if_true]
          exact
            { holds := { h with
                oltAuthResult := RowTable.Holds.clear
                positive := ⟨h.positive.1, rfl⟩ }
              answer := rfl }
        · simp only [hlength, hrows, ne_eq, not_true_eq_false, if_false, Bool.not_false, if_true,
            Bool.false_eq_true, false_and]
          exact ⟨h, rfl⟩
      · simp only [hlength, ne_eq, not_false_eq_true, if_true, and_false, if_false]
        exact ⟨h, rfl⟩

theorem updateKey_agrees (h : me.Holds tables)
    (hright : ∀ entry, msg.long = some (.broadcastKeyTable entry) → entry.control = .rowSet →
      me.data.onuSelectedCryptoCaps ≠ 0 → FragmentsRight entry.rowIdentifier me.broadcastKey.list) :
    SetAgrees (EnhSecCtrl.updateKey env me msg) (tables.setKey env.rowAlloc msg) := by
  by_cases hkey : ∃ entry, msg.long = some (.broadcastKeyTable entry)
  · have ⟨entry, hlong⟩ := hkey
    simp only [EnhSecCtrl.updateKey, EnhSecTables.setKey, hlong,
      EnhSecCtrl.broadcastKeyTblEntrySet]
    by_cases hselected : me.data.onuSelectedCryptoCaps = 0
    · rw [if_pos hselected, if_pos (h.selected.trans hselected)]
      exact ⟨h, rfl⟩
    · have hagrees : TablesAgree BroadcastKeyEntry.key
          (broadcastKeyEntrySet env.rowAlloc me.broadcastKey entry)
          (EnhSecTables.writeKey env.rowAlloc tables.broadcastKey entry) :=
        broadcastKeyEntrySet_agrees h.broadcastKey env.rowAlloc
          fun hcontrol => hright entry hlong hcontrol hselected
      rw [if_neg hselected, if_neg (ne_of_eq_of_ne h.selected hselected)]
      rcases hagrees.cases with ⟨hset, hwrite⟩ | ⟨table, rows, hset, hwrite, hholds⟩
      · rw [hset, hwrite]
        exact ⟨h, rfl⟩
      · rw [hset, hwrite]
        exact ⟨{ h with broadcastKey := hholds }, rfl⟩
  · have hme : EnhSecCtrl.updateKey env me msg = (me, true) := by
      rw [EnhSecCtrl.updateKey]
      split
      · exact absurd ⟨_, ‹_›⟩ hkey
      · rfl
    have htables : tables.setKey env.rowAlloc msg = (tables, true) := by
      rw [EnhSecTables.setKey]
      split
      · exact absurd ⟨_, ‹_›⟩ hkey
      · rfl
    rw [hme, htables]
    exact ⟨h, rfl⟩

/-! ## A SET -/

/-- A SET whose values are looked at, and whose rows come where the loops put them. -/
structure StepRight (env : EnhSecEnv) (me : EnhSecCtrl) (msg : EnhSecSet) : Prop where
  /-- A challenge status does not come with an attribute that sets it back. -/
  chlAlone : msg.oltChlStatus = some 1 → ∀ long, msg.long = some long →
    (∀ last, long ≠ .oltCryptoCaps last) ∧ ∀ entry, long ≠ .oltRandomChlTable entry
  /-- A complete challenge is answered with one of the ONU. -/
  generates : msg.oltChlStatus = some 1 → msg.isDataUpdated me.data = true →
    rowsFrom 1 me.oltRandomChl.list = true → env.Generates me.data
  /-- A challenge status that is stored already is set again without rows only. -/
  chlUpdated : msg.oltChlStatus = some 1 → msg.isDataUpdated me.data = true ∨
    me.oltRandomChl.list = []
  /-- A result status that is stored already is set again without rows and key only. -/
  resultUpdated : msg.oltResultStatus = some 1 → msg.isDataUpdated me.data = true ∨
    me.oltAuthResult.list = [] ∧ me.data.keyLen = 0
  /-- A row of the broadcast key comes to its place. -/
  fragments : ∀ entry, msg.long = some (.broadcastKeyTable entry) → entry.control = .rowSet →
    me.data.onuSelectedCryptoCaps ≠ 0 → FragmentsRight entry.rowIdentifier me.broadcastKey.list

theorem StepRight.updateChl_eq (hright : StepRight env me msg) (hstatus : msg.oltChlStatus = some 1) :
    EnhSecCtrl.updateChl env me msg upd = ((me, true), upd) := by
  have hnone := hright.chlAlone hstatus
  rw [EnhSecCtrl.updateChl]
  split
  · rename_i last hlong
    exact absurd rfl ((hnone _ hlong).1 last)
  · rename_i entry hlong
    exact absurd rfl ((hnone _ hlong).2 entry)
  · rfl

theorem isSome_and_newStatus (status : Option (BitVec 8)) (stored : Bool) :
    (status.isSome && newStatus stored status) = decide (status = some 1) := by
  cases status with
  | none => rfl
  | some value => simp [newStatus]

/-- The challenge status behind the first part of the update handler. -/
theorem StepRight.chlStatus_eq (hright : StepRight env me msg) : (msg.oltChlStatus.isSome &&
      (EnhSecCtrl.updateChl env me msg (msg.fetch me.data)).2.oltChlStatus) =
        decide (msg.oltChlStatus = some 1) := by
  by_cases hstatus : msg.oltChlStatus = some 1
  · rw [hright.updateChl_eq hstatus]
    exact isSome_and_newStatus _ _
  · rw [decide_eq_false hstatus, Bool.and_eq_false_iff]
    rw [EnhSecCtrl.updateChl]
    split
    · right
      rw [EnhSecCtrl.oltCryptoCapsUpdateAction]
      dsimp only
      split
      · rfl
      · split <;> rfl
    · exact .inr rfl
    · have hfetch := isSome_and_newStatus msg.oltChlStatus me.data.oltChlStatus
      rw [decide_eq_false hstatus, Bool.and_eq_false_iff] at hfetch
      exact hfetch

/-- The first part leaves the new result status alone, and selects the capabilities. -/
theorem updateChl_data {caps : BitVec 8 × BitVec 16} (hcaps : tables.capsOf msg = some caps)
    (hsame : (tables.selected, tables.keyLength) =
      (upd.onuSelectedCryptoCaps, upd.effectiveKeyLength)) :
    (EnhSecCtrl.updateChl env me msg upd).2.oltResultStatus = upd.oltResultStatus ∧
      caps = ((EnhSecCtrl.updateChl env me msg upd).2.onuSelectedCryptoCaps,
        (EnhSecCtrl.updateChl env me msg upd).2.effectiveKeyLength) := by
  rw [EnhSecTables.capsOf] at hcaps
  rw [EnhSecCtrl.updateChl]
  split
  · rename_i last hlong
    simp only [hlong] at hcaps
    rw [EnhSecCtrl.oltCryptoCapsUpdateAction]
    dsimp only
    split at hcaps
    · rename_i hzero
      rw [if_pos hzero]
      exact ⟨rfl, (Option.some.inj hcaps).symm.trans hsame⟩
    · rename_i hnonzero
      split at hcaps
      · rename_i hbit
        rw [if_neg hnonzero, if_pos hbit]
        exact ⟨rfl, (Option.some.inj hcaps).symm⟩
      · cases hcaps
  · rename_i entry hlong
    simp only [hlong] at hcaps
    exact ⟨rfl, (Option.some.inj hcaps).symm.trans hsame⟩
  · rename_i hno _
    split at hcaps
    · rename_i last hlong
      exact absurd hlong (hno last)
    · exact ⟨rfl, (Option.some.inj hcaps).symm.trans hsame⟩

theorem updateChl_of_capsOf (hcaps : tables.capsOf msg = none) :
    (EnhSecCtrl.updateChl env me msg upd).1 = (me, false) := by
  rw [EnhSecTables.capsOf] at hcaps
  split at hcaps
  · rename_i last hlong
    simp only [EnhSecCtrl.updateChl, hlong, EnhSecCtrl.oltCryptoCapsUpdateAction]
    split at hcaps
    · cases hcaps
    · rename_i hnonzero
      split at hcaps
      · cases hcaps
      · rename_i hbit
        rw [if_neg hnonzero, if_neg hbit]
  · cases hcaps

theorem oltChlStatus_kept (status : Bool) :
    (EnhSecCtrl.oltChlStatusUpdateAction env me status).1.broadcastKey = me.broadcastKey ∧
      (EnhSecCtrl.oltChlStatusUpdateAction env me status).1.data = me.data := by
  rw [EnhSecCtrl.oltChlStatusUpdateAction, EnhSecCtrl.onuRandomChlGenerate]
  repeat' split
  all_goals exact ⟨rfl, rfl⟩

theorem oltResultStatus_kept (status : Bool) :
    (EnhSecCtrl.oltResultStatusUpdateAction me status).1.broadcastKey = me.broadcastKey ∧
      (EnhSecCtrl.oltResultStatusUpdateAction me status).1.data = me.data := by
  rw [EnhSecCtrl.oltResultStatusUpdateAction]
  repeat' split
  all_goals exact ⟨rfl, rfl⟩

theorem returnIfError_assoc {σ : Type} (done : σ × Bool) (next more : σ → σ × Bool) :
    returnIfError (returnIfError done next) more =
      returnIfError done fun state => returnIfError (next state) more := by
  rw [returnIfError, returnIfError, returnIfError]
  split <;> rfl

/-- The parts of a SET that is looked at. -/
theorem setParts_agrees (h : me.Holds tables) (hright : StepRight env me msg)
    (hupdated : msg.isDataUpdated me.data = true) {caps : BitVec 8 × BitVec 16}
    (hcaps : tables.capsOf msg = some caps) :
    SetAgrees
      (returnIfError (me.meUpdate env msg (msg.fetch me.data)).1 fun me' =>
        ({ me' with data := (me.meUpdate env msg (msg.fetch me.data)).2 }, true))
      (returnIfError (tables.setChl env.rowAlloc msg) fun tables =>
        returnIfError (tables.chlStatus (msg.oltChlStatus = some 1)) fun tables =>
        returnIfError (tables.setResult env.rowAlloc msg) fun tables =>
        returnIfError (tables.resultStatus (msg.oltResultStatus = some 1)) fun tables =>
        returnIfError (tables.setKey env.rowAlloc msg) fun tables =>
        ({ tables with selected := caps.1, keyLength := caps.2 }, true)) := by
  have ⟨hresult, hdata⟩ := @updateChl_data env me tables msg (msg.fetch me.data) caps hcaps
    (Prod.mk_inj.mpr ⟨h.selected, h.keyLength⟩)
  have hstatus : (msg.oltResultStatus.isSome &&
      (EnhSecCtrl.updateChl env me msg (msg.fetch me.data)).2.oltResultStatus) =
        decide (msg.oltResultStatus = some 1) := by
    rw [hresult]
    exact isSome_and_newStatus _ _
  have hchl : SetAgrees (EnhSecCtrl.updateChl env me msg (msg.fetch me.data)).1
      (tables.setChl env.rowAlloc msg) := updateChl_agrees h hcaps
  simp only [EnhSecCtrl.meUpdate, returnIfError_assoc, hright.chlStatus_eq, hstatus]
  refine hchl.returnIfError fun _ => ?_
  have hgenerates : decide (msg.oltChlStatus = some 1) = true →
      rowsFrom 1 (EnhSecCtrl.updateChl env me msg (msg.fetch me.data)).1.1.oltRandomChl.list = true →
        env.Generates (EnhSecCtrl.updateChl env me msg (msg.fetch me.data)).1.1.data := by
    intro hset
    have hone := of_decide_eq_true hset
    rw [hright.updateChl_eq hone]
    exact hright.generates hone hupdated
  have hchlStatus := oltChlStatus_agrees hchl.holds hgenerates
  refine hchlStatus.returnIfError fun _ => ?_
  have hrows := @updateResult_agrees env _ _ msg hchlStatus.holds
  refine hrows.returnIfError fun _ => ?_
  have hresultStatus := oltResultStatus_agrees hrows.holds (msg.oltResultStatus = some 1)
  refine hresultStatus.returnIfError fun _ => ?_
  have hkey := @updateKey_agrees env _ _ msg hresultStatus.holds <| by
    -- where a row of the broadcast key is set, the other parts leave its table alone
    intro entry hlong
    have hfirst : (EnhSecCtrl.updateChl env me msg (msg.fetch me.data)).1.1 = me := by
      rw [EnhSecCtrl.updateChl, hlong]
    have hthird : ∀ me', (EnhSecCtrl.updateResult env me' msg).1 = me' := by
      intro me'
      rw [EnhSecCtrl.updateResult, hlong]
    rw [(oltResultStatus_kept _).1, (oltResultStatus_kept _).2, hthird, (oltChlStatus_kept _).1,
      (oltChlStatus_kept _).2, hfirst]
    exact hright.fragments entry hlong
  refine hkey.returnIfError fun _ => ?_
  rw [Prod.mk.injEq] at hdata
  exact ⟨{ hkey.holds with selected := hdata.1, keyLength := hdata.2 }, rfl⟩

theorem EnhSecTables.set_statuses {alloc : Bool} (hvalid : msg.isValid = true)
    (hlong : msg.long = none) :
    tables.set alloc msg =
      returnIfError (tables.chlStatus (msg.oltChlStatus = some 1)) fun tables' =>
      returnIfError (tables'.resultStatus (msg.oltResultStatus = some 1)) fun tables' =>
        ({ tables' with selected := tables.selected, keyLength := tables.keyLength }, true) := by
  have hcaps : tables.capsOf msg = some (tables.selected, tables.keyLength) := by
    rw [EnhSecTables.capsOf, hlong]
  rw [EnhSecTables.set, hvalid, Bool.not_true, if_neg Bool.false_ne_true, hcaps]
  simp only [EnhSecTables.setChl, EnhSecTables.setResult, EnhSecTables.setKey, hlong]
  rfl

/-- A SET that changes no value is accepted by the maps. -/
theorem set_agrees_of_same (h : me.Holds tables) (hright : StepRight env me msg)
    (hsame : ¬ msg.isDataUpdated me.data = true) :
    SetAgrees (me, true) (tables.set env.rowAlloc msg) := by
  have hparts := hsame
  rw [EnhSecSet.isDataUpdated, Bool.or_eq_true, Bool.or_eq_true, not_or, not_or] at hparts
  have ⟨⟨hlong, hchl⟩, hresult⟩ := hparts
  have hstored : ∀ (status : Option (BitVec 8)) (stored : Bool),
      ¬ status.any (· ≠ if stored then 1 else 0) = true → status.all (· ≤ 1) = true := by
    intro status stored hany
    cases status with
    | none => rfl
    | some value =>
        have hvalue : value = if stored then 1 else 0 := by simpa using hany
        rw [hvalue]
        cases stored <;> rfl
  have hvalid : msg.isValid = true := by
    rw [EnhSecSet.isValid, hstored _ _ hchl, hstored _ _ hresult]
    rfl
  have hnone : msg.long = none := by simpa using hlong
  rw [EnhSecTables.set_statuses hvalid hnone]
  change SetAgrees (returnIfError (me, true) fun me => returnIfError (me, true) fun me => (me, true))
    _
  have hempty : ∀ table : RowTable RowEntry, table.list = [] → rowsFrom 1 table.list = true := by
    intro table htable
    rw [htable]
    rfl
  have hchlStatus : SetAgrees (me, true) (tables.chlStatus (msg.oltChlStatus = some 1)) := by
    by_cases hone : msg.oltChlStatus = some 1
    · have hrows := (hright.chlUpdated hone).resolve_left hsame
      have hcomplete := (h.oltRandomChl.complete_iff _).mpr ⟨hempty _ hrows, rfl⟩
      have hcleared : me.oltRandomChl.Holds RowEntry.key fun _ => none :=
        { h.oltRandomChl with lookup := fun k => by rw [hrows]; rfl }
      rw [EnhSecTables.chlStatus, decide_eq_true hone, Bool.not_true, if_neg Bool.false_ne_true,
        if_pos ⟨_, hcomplete⟩]
      exact ⟨{ h with oltRandomChl := hcleared, positive := ⟨rfl, h.positive.2⟩ }, rfl⟩
    · rw [EnhSecTables.chlStatus, decide_eq_false hone]
      exact ⟨h, rfl⟩
  refine hchlStatus.returnIfError fun _ => ?_
  have hresultStatus : SetAgrees (me, true)
      ((tables.chlStatus (msg.oltChlStatus = some 1)).1.resultStatus
        (msg.oltResultStatus = some 1)) := by
    have hnow := hchlStatus.holds
    by_cases hone : msg.oltResultStatus = some 1
    · have ⟨hrows, hlength⟩ := (hright.resultUpdated hone).resolve_left hsame
      have hcount : me.oltAuthResult.entriesNum = 0 := by rw [h.oltAuthResult.count, hrows]; rfl
      have hcomplete := (hnow.oltAuthResult.complete_iff 0).mpr ⟨hempty _ hrows, hcount⟩
      have hkeyLength : (tables.chlStatus (msg.oltChlStatus = some 1)).1.keyLength.toNat / 8 =
          0 * 16 := by
        rw [hnow.keyLength]
        exact hlength.trans (Nat.zero_mul 16).symm
      have hcleared : me.oltAuthResult.Holds RowEntry.key fun _ => none :=
        { hnow.oltAuthResult with lookup := fun k => by rw [hrows]; rfl }
      rw [EnhSecTables.resultStatus, decide_eq_true hone, Bool.not_true, if_neg Bool.false_ne_true,
        if_pos ⟨0, hcomplete, hkeyLength⟩]
      exact ⟨{ hnow with oltAuthResult := hcleared, positive := ⟨hnow.positive.1, rfl⟩ }, rfl⟩
    · rw [EnhSecTables.resultStatus, decide_eq_false hone]
      exact ⟨hnow, rfl⟩
  refine hresultStatus.returnIfError fun _ => ?_
  exact ⟨{ hresultStatus.holds with selected := h.selected, keyLength := h.keyLength }, rfl⟩

/-- One SET. -/
theorem set_agrees (h : me.Holds tables) (hright : StepRight env me msg) :
    SetAgrees (me.set env msg) (tables.set env.rowAlloc msg) := by
  rw [EnhSecCtrl.set]
  by_cases hupdated : msg.isDataUpdated me.data = true
  · rw [EnhSecTables.set, hupdated, Bool.not_true, if_neg Bool.false_ne_true]
    by_cases hvalid : msg.isValid = true
    · rw [hvalid, Bool.not_true, if_neg Bool.false_ne_true, if_neg Bool.false_ne_true]
      cases hcaps : tables.capsOf msg with
      | none =>
          have hrefused : (EnhSecCtrl.updateChl env me msg (msg.fetch me.data)).1 = (me, false) :=
            updateChl_of_capsOf hcaps
          simp only [EnhSecCtrl.meUpdate, hrefused]
          exact ⟨h, rfl⟩
      | some caps => exact setParts_agrees h hright hupdated hcaps
    · rw [Bool.not_eq_true] at hvalid
      rw [hvalid]
      exact ⟨h, rfl⟩
  · have hsame := set_agrees_of_same h hright hupdated
    rw [Bool.not_eq_true] at hupdated
    rw [hupdated]
    exact hsame

end Parts

/-! ## Runs -/

/-- A SET of the ME and of the maps. -/
noncomputable def setBoth (state : EnhSecCtrl × EnhSecTables) (event : EnhSecEnv × EnhSecSet) :
    Option (EnhSecCtrl × EnhSecTables) :=
  some ((state.1.set event.1 event.2).1, (state.2.set event.1.rowAlloc event.2).1)

/-- The ME answers a SET as the maps do, a status alone by the rows that are present, and has the
rows of the maps behind it. -/
structure SetRight (before : EnhSecCtrl × EnhSecTables) (event : EnhSecEnv × EnhSecSet)
    (after : EnhSecCtrl × EnhSecTables) : Prop where
  answer : (before.1.set event.1 event.2).2 = (before.2.set event.1.rowAlloc event.2).2
  chlStatus : event.2 = ⟨none, some 1, none⟩ →
    ((before.1.set event.1 event.2).2 = true ↔ ∃ n, Complete before.2.oltRandomChl n)
  resultStatus : event.2 = ⟨none, none, some 1⟩ →
    ((before.1.set event.1 event.2).2 = true ↔
      ∃ n, Complete before.2.oltAuthResult n ∧ before.1.data.keyLen = n * 16)
  tables : after.1.Holds after.2

theorem EnhSecTables.set_chlStatus (tables : EnhSecTables) (alloc : Bool) :
    (tables.set alloc ⟨none, some 1, none⟩).2 = true ↔ ∃ n, Complete tables.oltRandomChl n := by
  have hparts : (tables.set alloc ⟨none, some 1, none⟩).2 = (tables.chlStatus true).2 := by
    rw [EnhSecTables.set_statuses (by rfl) (by rfl)]
    dsimp only
    rw [decide_eq_true rfl, returnIfError]
    split
    · rename_i hok
      exact hok.symm
    · rfl
  rw [hparts, EnhSecTables.chlStatus, Bool.not_true, if_neg Bool.false_ne_true]
  split
  · rename_i hcomplete
    exact iff_of_true rfl hcomplete
  · rename_i hgap
    exact iff_of_false Bool.false_ne_true hgap

theorem EnhSecTables.set_resultStatus (tables : EnhSecTables) (alloc : Bool) :
    (tables.set alloc ⟨none, none, some 1⟩).2 = true ↔
      ∃ n, Complete tables.oltAuthResult n ∧ tables.keyLength.toNat / 8 = n * 16 := by
  have hparts : (tables.set alloc ⟨none, none, some 1⟩).2 = (tables.resultStatus true).2 := by
    rw [EnhSecTables.set_statuses (by rfl) (by rfl)]
    dsimp only
    have hchl : tables.chlStatus false = (tables, true) := rfl
    rw [decide_eq_true rfl, decide_eq_false nofun, hchl, returnIfError, if_pos rfl, returnIfError]
    split
    · rename_i hok
      exact hok.symm
    · rfl
  rw [hparts, EnhSecTables.resultStatus, Bool.not_true, if_neg Bool.false_ne_true]
  split
  · rename_i hcomplete
    exact iff_of_true rfl hcomplete
  · rename_i hgap
    exact iff_of_false Bool.false_ne_true hgap

theorem EnhSecCtrl.Holds.init (data : EnhSecData) :
    (EnhSecCtrl.init data).Holds (EnhSecTables.init data) where
  oltRandomChl := RowTable.Holds.clear
  oltAuthResult := RowTable.Holds.clear
  broadcastKey := RowTable.Holds.clear
  positive := ⟨rfl, rfl⟩
  selected := rfl
  keyLength := rfl

/-- In a run of SETs whose values are looked at, and whose rows of the broadcast key come to their
places, the ME has the tables and the answers of the maps. -/
theorem run_right (data : EnhSecData) (run : List (EnhSecEnv × EnhSecSet))
    (hright : Along setBoth (fun before event _ => StepRight event.1 before.1 event.2)
      (.init data, .init data) run) : Along setBoth SetRight (.init data, .init data) run := by
  have hstep : ∀ before event after, EnhSecCtrl.Holds before.1 before.2 →
      StepRight event.1 before.1 event.2 → setBoth before event = some after →
      SetRight before event after ∧ EnhSecCtrl.Holds after.1 after.2 := by
    intro before event after hbefore hguard hafter
    have hagrees := set_agrees hbefore hguard
    cases hafter
    refine ⟨⟨hagrees.answer, ?_, ?_, hagrees.holds⟩, hagrees.holds⟩
    · intro hset
      rw [hagrees.answer, hset]
      exact EnhSecTables.set_chlStatus _ _
    · intro hset
      rw [hagrees.answer, hset, EnhSecData.keyLen, ← hbefore.keyLength]
      exact EnhSecTables.set_resultStatus _ _
  exact Along.of_guard hstep (EnhSecCtrl.Holds.init data) hright

/-- A system that has all that a SET needs. -/
def fullEnv : EnhSecEnv where
  rowAlloc := true
  alloc := true
  random := some fun _ => 0
  onuRows := 1
  avc := true

/-- An ME without key. -/
def noKey : EnhSecData where
  oltChlStatus := false
  onuSelectedCryptoCaps := 0
  oltResultStatus := false
  effectiveKeyLength := 0

/-- The capabilities, and a challenge whose rows come in the wrong order. -/
def challengeRun : List (EnhSecEnv × EnhSecSet) :=
  [(fullEnv, ⟨some (.oltCryptoCaps 1), none, none⟩),
    (fullEnv, ⟨some (.oltRandomChlTable ⟨2, 20⟩), none, none⟩),
    (fullEnv, ⟨some (.oltRandomChlTable ⟨1, 10⟩), none, none⟩),
    (fullEnv, ⟨none, some 1, none⟩)]

theorem run_right_challenge : Along setBoth SetRight (.init noKey, .init noKey) challengeRun := by
  have hrow : ∀ (me : EnhSecCtrl) (long : EnhSecAttr),
      (∀ entry, long ≠ .broadcastKeyTable entry) → StepRight fullEnv me ⟨some long, none, none⟩ := by
    intro me long hlong
    exact
      { chlAlone := nofun
        generates := nofun
        chlUpdated := nofun
        resultUpdated := nofun
        fragments := fun entry hentry => absurd (Option.some.inj hentry) (hlong entry) }
  refine run_right noKey challengeRun ⟨hrow _ _ nofun, hrow _ _ nofun, hrow _ _ nofun, ?_, trivial⟩
  exact
    { chlAlone := nofun
      generates := fun _ _ _ => ⟨rfl, by decide, rfl, by decide, rfl⟩
      chlUpdated := fun _ => .inl (by decide)
      resultUpdated := nofun
      fragments := nofun }

/-- The capabilities, and two rows of the broadcast key. -/
def keyRun : List (EnhSecEnv × EnhSecSet) :=
  [(fullEnv, ⟨some (.oltCryptoCaps 1), none, none⟩),
    (fullEnv, ⟨some (.broadcastKeyTable ⟨0, 3, 30⟩), none, none⟩),
    (fullEnv, ⟨some (.broadcastKeyTable ⟨0, 5, 50⟩), none, none⟩)]

/-- The second row comes in front of the first one. -/
theorem not_setRight_key : ¬ Along setBoth SetRight (.init noKey, .init noKey) keyRun := by
  intro hrun
  have hascending := hrun.2.2.1.tables.broadcastKey.ascending
  exact absurd hascending (by unfold Ascending; decide)

end FalconGpon.Omci
