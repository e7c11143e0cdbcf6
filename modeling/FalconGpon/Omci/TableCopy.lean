/-
# Copies of tables

What GET and GET_NEXT do to the cache of table copies. The cache stays `Consistent`: no
attribute has two entries and each timer is the one that its entry remembers. A GET that
reads a table finds a place for its copy (`Placed`), a GET_NEXT returns a piece of it.
-/

import FalconGpon.Omci.GetAction

namespace FalconGpon.Omci

open FalconGpon.Lib

variable {ω : Type}

/-! ## The cache -/

/-- The bytes of a copy. -/
def TblCopied.shown (outer : ω) (copied : TblCopied ω) : List Byte :=
  match copied.data with
  | some data => slice (data.show outer) 0 copied.dataSize
  | none => List.replicate copied.dataSize 0

theorem TblCopied.length_shown (outer : ω) (copied : TblCopied ω) :
    (copied.shown outer).length = copied.dataSize := by
  rw [TblCopied.shown]
  split <;> simp

namespace TblCopies

variable {copies : TblCopies ω}

/-- No attribute has two entries, and each timer is the one that its entry remembers. -/
structure Consistent (copies : TblCopies ω) : Prop where
  unique : ∀ i j, (copies.array i).toTblKey = (copies.array j).toTblKey →
    (copies.array i).attr ≠ 0 → i = j
  owner : ∀ timeout ∈ copies.timeouts, timeout.1 ≠ 0 ∧ timeout.2.attr ≠ 0 ∧
    ∃ i, (copies.array i).toTblKey = timeout.2 ∧ (copies.array i).timeoutId = timeout.1 ∧
      (copies.array i).valid = true

@[simp]
theorem array_set_self (i : Fin omciTableCopyNum) (entry : TblCopyEntry ω) :
    (copies.set i entry).array i = entry := by
  simp [set]

theorem array_set_of_ne {i j : Fin omciTableCopyNum} (entry : TblCopyEntry ω) (h : j ≠ i) :
    (copies.set i entry).array j = copies.array j := by
  simp [set, h]

@[simp]
theorem lastTimeoutId_set (i : Fin omciTableCopyNum) (entry : TblCopyEntry ω) :
    (copies.set i entry).lastTimeoutId = copies.lastTimeoutId := rfl

theorem mem_timeoutEventRemove {timeoutId : Nat} {timeout : Nat × TblKey} :
    timeout ∈ (copies.timeoutEventRemove timeoutId).timeouts ↔
      timeout ∈ copies.timeouts ∧ timeout.1 ≠ timeoutId := by
  simp [timeoutEventRemove]

theorem consistent_tblCopyInit : (tblCopyInit : TblCopies ω).Consistent where
  unique _ _ _ hattr := absurd rfl hattr
  owner _ hmem := absurd hmem List.not_mem_nil

namespace Consistent

theorem timeoutEventRemove (h : copies.Consistent) (timeoutId : Nat) :
    (copies.timeoutEventRemove timeoutId).Consistent where
  unique := h.unique
  owner timeout hmem := h.owner timeout (mem_timeoutEventRemove.mp hmem).1

variable {i : Fin omciTableCopyNum} {key : TblKey}

/-- Replace an entry, which then belongs to an attribute that no other entry has. -/
theorem set (h : copies.Consistent) {entry : TblCopyEntry ω}
    (hkey : ∀ j, (copies.array j).toTblKey = entry.toTblKey → j = i)
    (howner : ∀ timeout ∈ copies.timeouts, (copies.array i).toTblKey = timeout.2 →
      (copies.array i).timeoutId = timeout.1 → (copies.array i).valid = true →
      entry.toTblKey = timeout.2 ∧ entry.timeoutId = timeout.1 ∧ entry.valid = true) :
    (copies.set i entry).Consistent where
  unique first second hsame hattr := by
    by_cases hfirst : first = i
    · by_cases hsecond : second = i
      · rw [hfirst, hsecond]
      · rw [hfirst, array_set_self, array_set_of_ne entry hsecond] at hsame
        exact absurd (hkey second hsame.symm) hsecond
    · by_cases hsecond : second = i
      · rw [hsecond, array_set_self, array_set_of_ne entry hfirst] at hsame
        exact absurd (hkey first hsame) hfirst
      · rw [array_set_of_ne entry hfirst, array_set_of_ne entry hsecond] at hsame
        rw [array_set_of_ne entry hfirst] at hattr
        exact h.unique first second hsame hattr
  owner timeout hmem := by
    obtain ⟨hid, hattr, j, hj, hjid, hvalid⟩ := h.owner timeout hmem
    by_cases hji : j = i
    · subst hji
      refine ⟨hid, hattr, j, ?_⟩
      rw [array_set_self]
      exact howner timeout hmem hj hjid hvalid
    · refine ⟨hid, hattr, j, ?_⟩
      rw [array_set_of_ne entry hji]
      exact ⟨hj, hjid, hvalid⟩

theorem set_copied (h : copies.Consistent) {entry : TblCopyEntry ω}
    (hattr : (copies.array i).attr ≠ 0) (hkey : entry.toTblKey = (copies.array i).toTblKey)
    (hid : entry.timeoutId = (copies.array i).timeoutId) (hvalid : entry.valid = true) :
    (copies.set i entry).Consistent := by
  apply h.set
  · intro j hj
    exact (h.unique i j (by rw [hj, hkey]) hattr).symm
  · intro timeout _ htimeout htimeoutId _
    exact ⟨hkey.trans htimeout, hid.trans htimeoutId, hvalid⟩

theorem timeoutId_eq (h : copies.Consistent)
    (hattr : (copies.array i).attr ≠ 0) {timeout : Nat × TblKey}
    (hmem : timeout ∈ copies.timeouts) (hkey : (copies.array i).toTblKey = timeout.2) :
    (copies.array i).timeoutId = timeout.1 := by
  obtain ⟨_, _, j, hj, hid, _⟩ := h.owner timeout hmem
  rw [h.unique i j (hkey.trans hj.symm) hattr]
  exact hid

/-- The timer of an entry is started anew. -/
theorem timeoutEventAdd (h : copies.Consistent)
    (hattr : key.attr ≠ 0) (hkey : (copies.array i).toTblKey = key)
    (hvalid : (copies.array i).valid = true)
    (hnone : ∀ timeout ∈ copies.timeouts, timeout.2 ≠ key) {copies' : TblCopies ω}
    (hadd : copies.timeoutEventAdd true i key = some copies') : copies'.Consistent := by
  rw [TblCopies.timeoutEventAdd, if_pos rfl] at hadd
  obtain rfl := Option.some.inj hadd
  have hset : (copies.set i { copies.array i with timeoutId := copies.lastTimeoutId + 1 }).Consistent := by
    apply h.set
    · intro j hj
      exact (h.unique i j hj.symm (by rw [hkey]; exact hattr)).symm
    · intro timeout hmem htimeout _ _
      exact absurd (htimeout.symm.trans hkey) (hnone timeout hmem)
  refine ⟨hset.unique, fun timeout hmem => ?_⟩
  rcases List.mem_append.mp hmem with hold | hnew
  · exact hset.owner timeout hold
  · obtain rfl := List.mem_singleton.mp hnew
    refine ⟨Nat.succ_ne_zero _, hattr, i, ?_⟩
    dsimp only
    rw [array_set_self]
    exact ⟨hkey, rfl, hvalid⟩

end Consistent

/-! ### Looking up -/

theorem find_of_ne {rest : List (Fin omciTableCopyNum)}
    (h : ∀ j ∈ rest, (copies.array j).toTblKey ≠ key) (entry : Option (Fin omciTableCopyNum)) :
    copies.find key rest entry = entry := by
  induction rest with
  | nil => rfl
  | cons j rest ih =>
      rw [find, if_neg (h j List.mem_cons_self)]
      exact ih fun k hk => h k (List.mem_cons_of_mem _ hk)

/-- The lookup from one entry on, if only one has the attribute. -/
theorem find_of_mem
    (hkey : ∀ j, (copies.array j).toTblKey = key ↔ j = i) {rest : List (Fin omciTableCopyNum)}
    (hmem : i ∈ rest) (hnodup : rest.Nodup) :
    copies.find key rest none = if (copies.array i).valid then some i else none := by
  induction rest with
  | nil => exact absurd hmem List.not_mem_nil
  | cons j rest ih =>
      rw [List.nodup_cons] at hnodup
      rw [find]
      by_cases hj : j = i
      · have hrest : ∀ k ∈ rest, (copies.array k).toTblKey ≠ key := by
          intro k hk hsame
          rw [hkey] at hsame
          exact hnodup.1 (hj ▸ hsame ▸ hk)
        rw [if_pos ((hkey j).mpr hj), find_of_ne hrest, hj]
      · rw [if_neg (mt (hkey j).mp hj)]
        exact ih ((List.mem_cons.mp hmem).resolve_left (Ne.symm hj)) hnodup.2

theorem Consistent.meTblCopyFind_eq (h : copies.Consistent) (hattr : key.attr ≠ 0)
    (hkey : (copies.array i).toTblKey = key) :
    copies.meTblCopyFind key = if (copies.array i).valid then some i else none := by
  apply find_of_mem _ (List.mem_finRange i) (List.nodup_finRange _)
  intro j
  constructor
  · intro hj
    exact (h.unique i j (hkey.trans hj.symm) (by rw [hkey]; exact hattr)).symm
  · rintro rfl
    exact hkey

theorem meTblCopyFind_eq_some (hfind : copies.meTblCopyFind key = some i) :
    (copies.array i).toTblKey = key ∧ (copies.array i).valid = true := by
  have hlist : ∀ (rest : List (Fin omciTableCopyNum)) (entry : Option (Fin omciTableCopyNum)),
      copies.find key rest entry = some i → entry = some i ∨
        ((copies.array i).toTblKey = key ∧ (copies.array i).valid = true) := by
    intro rest
    induction rest with
    | nil => exact fun entry hentry => .inl hentry
    | cons j rest ih =>
        intro entry hentry
        rw [find] at hentry
        split at hentry
        · rename_i hj
          split at hentry
          · rename_i hvalid
            rcases ih _ hentry with hsame | hfound
            · obtain rfl := Option.some.inj hsame
              exact .inr ⟨hj, hvalid⟩
            · exact .inr hfound
          · exact .inl hentry
        · exact ih entry hentry
  exact (hlist _ none hfind).resolve_left nofun

def firstEntry : Fin omciTableCopyNum := ⟨0, by decide⟩

/-- The copy that makes place for one of a new attribute. -/
def evicts (copies : TblCopies ω) (key : TblKey) : Option TblKey :=
  if ∀ i, (copies.array i).toTblKey ≠ key ∧ (copies.array i).valid = true then
    some (copies.array firstEntry).toTblKey
  else none

/-- An attribute was given an entry: all others are unchanged and no copy but the evicted one
is lost. -/
structure Placed (copies : TblCopies ω) (key : TblKey) (copies' : TblCopies ω)
    (i : Fin omciTableCopyNum) : Prop where
  entryKey : (copies'.array i).toTblKey = key
  valid : (copies'.array i).valid = true
  other : ∀ j, j ≠ i → copies'.array j = copies.array j
  lost : (copies.array i).valid = true → (copies.array i).toTblKey = key ∨
    copies.evicts key = some (copies.array i).toTblKey

theorem Placed.set {copies' : TblCopies ω}
    (h : copies.Placed key copies' i) {entry : TblCopyEntry ω} (hkey : entry.toTblKey = key)
    (hvalid : entry.valid = true) : copies.Placed key (copies'.set i entry) i where
  entryKey := by rw [array_set_self, hkey]
  valid := by rw [array_set_self, hvalid]
  other j hj := by rw [array_set_of_ne entry hj, h.other j hj]
  lost := h.lost

/-- `me_tbl_copy_empty_get` gives an entry to every attribute. -/
theorem meTblCopyEmptyGet_spec (h : copies.Consistent) (hattr : key.attr ≠ 0) :
    ∃ copies' i, copies.meTblCopyEmptyGet key = some (copies', i) ∧ copies'.Consistent ∧
      copies.Placed key copies' i ∧ copies'.lastTimeoutId = copies.lastTimeoutId := by
  rw [meTblCopyEmptyGet]
  dsimp only
  cases hsame : (List.finRange omciTableCopyNum).find? fun i => (copies.array i).toTblKey = key with
  | some i =>
      have hkey : (copies.array i).toTblKey = key := by simpa using List.find?_some hsame
      have hset : (copies.set i (TblCopyEntry.renewed (copies.array i))).Consistent :=
        h.set_copied (by rw [hkey]; exact hattr) rfl rfl rfl
      refine ⟨_, i, rfl, hset, ⟨?_, ?_, fun j hj => array_set_of_ne _ hj, fun _ => .inl hkey⟩, rfl⟩
      · rw [array_set_self]
        exact hkey
      · rw [array_set_self]
        rfl
  | none =>
      have hnew : ∀ i, (copies.array i).toTblKey ≠ key := by simpa using hsame
      cases hfree : (List.finRange omciTableCopyNum).find? fun i => (copies.array i).valid = false with
      | some i =>
          have hinvalid : (copies.array i).valid = false := by simpa using List.find?_some hfree
          refine ⟨_, i, rfl, ?_, ⟨?_, ?_, fun j hj => array_set_of_ne _ hj, ?_⟩, rfl⟩
          · apply h.set
            · exact fun j hj => absurd hj (hnew j)
            · exact fun _ _ _ _ hvalid => absurd (hinvalid.symm.trans hvalid) nofun
          · rw [array_set_self]
            rfl
          · rw [array_set_self]
            rfl
          · exact fun hvalid => absurd (hinvalid.symm.trans hvalid) nofun
      | none =>
          have hvalid : ∀ i, (copies.array i).valid = true := by simpa using hfree
          have hfirst : (List.finRange omciTableCopyNum).find?
              (fun i => (copies.array i).valid = true) = some firstEntry :=
            List.find?_cons_of_pos (decide_eq_true (hvalid firstEntry))
          rw [hfirst]
          refine ⟨_, firstEntry, rfl, ?_, ⟨?_, ?_, fun j hj => array_set_of_ne _ hj, ?_⟩, rfl⟩
          · apply (h.timeoutEventRemove _).set
            · exact fun j hj => absurd hj (hnew j)
            · intro timeout hmem _ hid _
              exact absurd hid.symm (mem_timeoutEventRemove.mp hmem).2
          · rw [array_set_self]
            rfl
          · rw [array_set_self]
            rfl
          · intro _
            right
            rw [evicts, if_pos fun i => ⟨hnew i, hvalid i⟩]

/-- The timer of an entry is replaced by a new one. -/
theorem Consistent.rearm (h : copies.Consistent)
    (hattr : key.attr ≠ 0) (hkey : (copies.array i).toTblKey = key)
    (hvalid : (copies.array i).valid = true) {removed : TblCopies ω}
    (hremoved : removed = copies.timeoutEventRemove (copies.array i).timeoutId ∨
      removed = copies ∧ (copies.array i).timeoutId = 0) :
    ∃ armed, removed.timeoutEventAdd true i key = some armed ∧ armed.Consistent ∧
      armed.array i = { copies.array i with timeoutId := copies.lastTimeoutId + 1 } ∧
      ∀ j, j ≠ i → armed.array j = copies.array j := by
  have hattr' : (copies.array i).attr ≠ 0 := by
    rw [hkey]
    exact hattr
  have hbefore : removed.Consistent ∧ removed.array = copies.array ∧
      removed.lastTimeoutId = copies.lastTimeoutId ∧
      ∀ timeout ∈ removed.timeouts, timeout.2 ≠ key := by
    rcases hremoved with rfl | ⟨rfl, hzero⟩
    · refine ⟨h.timeoutEventRemove _, rfl, rfl, fun timeout hmem hsame => ?_⟩
      obtain ⟨hmem, hid⟩ := mem_timeoutEventRemove.mp hmem
      exact hid (h.timeoutId_eq hattr' hmem (hkey.trans hsame.symm)).symm
    · refine ⟨h, rfl, rfl, fun timeout hmem hsame => ?_⟩
      have hid := h.timeoutId_eq hattr' hmem (hkey.trans hsame.symm)
      exact (h.owner timeout hmem).1 (hid.symm.trans hzero)
  obtain ⟨hconsistent, harray, hlast, hnone⟩ := hbefore
  refine ⟨_, rfl, hconsistent.timeoutEventAdd hattr (by rw [harray, hkey])
    (by rw [harray, hvalid]) hnone rfl, ?_, fun j hj => ?_⟩
  · show (removed.set i _).array i = _
    rw [array_set_self, harray, hlast]
  · show (removed.set i _).array j = _
    rw [array_set_of_ne _ hj, harray]

end TblCopies

/-! ## The table a GET reads -/

/-- The table attribute that the loop of `get_action_handle` comes to, and the store
then. -/
def tableAttr (cls : TblClass ω) (ref : MeRef) (attrMask : AttrMask) (interval : PmInterval) :
    List Attr → Nat → Store ω → Option (Attr × Store ω)
  | [], _, _ => none
  | attr :: attrs, attrSizeSum, store =>
      let size := (cls.attrs attr).size
      let prop := (cls.attrs attr).prop
      if !attrMask.has attr || !cls.isMeAttrExist attr || hasProp prop AttrProp.notSupported ||
          !hasProp prop AttrProp.rd then
        tableAttr cls ref attrMask interval attrs attrSizeSum store
      else if getRspValuesSize < size || hasProp prop AttrProp.table then some (attr, store)
      else if getRspValuesSize < attrSizeSum + size then none
      else
        tableAttr cls ref attrMask interval attrs (attrSizeSum + size)
          (meDataRead cls.toMeClass ref interval store).1

/-- What the class's handler is called for. -/
structure TableGet (ω : Type) where
  attr : Attr
  store : Store ω
  handler : TblCopyHandler ω

/-- The table a GET reads, if it reads one of a class that can copy its tables. -/
def tableGet (cls : TblClass ω) (ref : MeRef) (env : GetEnv ω) (store : Store ω)
    (msg : OmciMsg) : Option (TableGet ω) :=
  let interval := getInterval msg
  match getCounters cls.toMeClass interval env store with
  | (store, .success) =>
      match tableAttr cls ref (msg.field16 0) interval (List.finRange 16) 0 store, cls.tblCopy with
      | some (attr, store), some handler => some ⟨attr, store, handler⟩
      | _, _ => none
  | _ => none

/-- What the loop comes to. -/
theorem getAttrs_eq (cls : TblClass ω) (ref : MeRef) (instanceId : InstanceId)
    (attrMask : AttrMask) (interval : PmInterval) (env : GetEnv ω) (attrs : List Attr)
    (state : GetState ω) (acc : GetAttrs) :
    match tableAttr cls ref attrMask interval attrs acc.attrSizeSum state.store with
    | some (attr, store) => ∃ rsp,
        getAttrs cls ref instanceId attrMask interval env attrs state acc =
          .table (getTable cls ref ⟨cls.classId, instanceId, attr.val + 1⟩ attr env
            ⟨store, state.copies⟩ rsp)
    | none => ∃ store acc',
        getAttrs cls ref instanceId attrMask interval env attrs state acc =
          .finished ⟨store, state.copies⟩ acc' := by
  induction attrs generalizing state acc with
  | nil => exact ⟨state.store, acc, rfl⟩
  | cons attr attrs ih =>
      by_cases hskip : (!attrMask.has attr || !cls.isMeAttrExist attr ||
          hasProp (cls.attrs attr).prop AttrProp.notSupported ||
          !hasProp (cls.attrs attr).prop AttrProp.rd) = true
      · -- the loop goes on, at most with another mask
        have hrest : ∃ acc', acc'.attrSizeSum = acc.attrSizeSum ∧
            getAttrs cls ref instanceId attrMask interval env (attr :: attrs) state acc =
              getAttrs cls ref instanceId attrMask interval env attrs state acc' := by
          rw [getAttrs]
          dsimp only
          split
          · exact ⟨acc, rfl, rfl⟩
          · split
            · exact ⟨{ acc with attrExecMask := acc.attrExecMask ||| omciAttr2mask attr }, rfl, rfl⟩
            · split
              · exact ⟨{ acc with optAttrMask := cls.optAttrMask }, rfl, rfl⟩
              · rename_i hhas hexist hsupported
                rw [if_pos (by simpa [hhas, hexist, hsupported] using hskip)]
                exact ⟨{ acc with attrExecMask := acc.attrExecMask ||| omciAttr2mask attr }, rfl, rfl⟩
        obtain ⟨acc', hsum, hloop⟩ := hrest
        rw [hloop, tableAttr, if_pos hskip, ← hsum]
        exact ih state acc'
      · rw [tableAttr, getAttrs]
        dsimp only
        rw [if_neg hskip]
        simp only [Bool.or_eq_true, not_or, Bool.not_eq_true] at hskip
        obtain ⟨⟨⟨hhas, hexist⟩, hsupported⟩, hread⟩ := hskip
        rw [hhas, hexist, hsupported, hread]
        simp only [Bool.false_eq_true, if_false]
        by_cases htable : (decide (getRspValuesSize < (cls.attrs attr).size) ||
            hasProp (cls.attrs attr).prop AttrProp.table) = true
        · rw [if_pos (by simpa using htable), if_pos htable]
          exact ⟨acc.rsp, rfl⟩
        · rw [if_neg (by simpa using htable), if_neg htable]
          by_cases hfull : getRspValuesSize < acc.attrSizeSum + (cls.attrs attr).size
          · rw [if_pos hfull, if_pos hfull]
            exact ⟨state.store, _, rfl⟩
          · rw [if_neg hfull, if_neg hfull]
            generalize meDataRead cls.toMeClass ref interval state.store = read
            obtain ⟨store, err, data⟩ := read
            cases err with
            | success =>
                exact ih ⟨store, state.copies⟩
                  { acc with
                    attrSizeSum := acc.attrSizeSum + (cls.attrs attr).size
                    attrMaskRsp := acc.attrMaskRsp ||| omciAttr2mask attr
                    offset := acc.offset + (cls.attrs attr).size
                    rsp := acc.rsp.write (3 + acc.offset) (cls.attrValue attr data) }
            | _ =>
                exact ih ⟨store, state.copies⟩
                  { acc with
                    attrSizeSum := acc.attrSizeSum + (cls.attrs attr).size
                    attrExecMask := acc.attrExecMask ||| omciAttr2mask attr }

/-- A GET that reads no table leaves the copies alone. -/
theorem getActionHandle_copies {cls : TblClass ω} {ref : MeRef} {env : GetEnv ω}
    {state : GetState ω} {msg : OmciMsg} (hnone : tableGet cls ref env state.store msg = none)
    (instanceId : InstanceId) (rsp : OmciMsg) :
    (getActionHandle cls ref instanceId env state msg rsp).state.copies = state.copies := by
  rw [tableGet] at hnone
  rw [getActionHandle]
  dsimp only at hnone ⊢
  split
  · rename_i store hcounters
    rw [hcounters] at hnone
    dsimp only at hnone
    have hloop := getAttrs_eq cls ref instanceId (msg.field16 0) (getInterval msg) env
      (List.finRange 16) ⟨store, state.copies⟩ ⟨0, 0, 0, 0, 0, rsp.write 1 (octets16 (msg.field16 0))⟩
    dsimp only at hloop
    cases hattr : tableAttr cls ref (msg.field16 0) (getInterval msg) (List.finRange 16) 0 store with
    | none =>
        rw [hattr] at hloop
        obtain ⟨store', acc, hfinished⟩ := hloop
        rw [hfinished]
        dsimp only
        rw [getFinish]
        split
        · split <;> rfl
        · rfl
    | some found =>
        obtain ⟨attr, store'⟩ := found
        rw [hattr] at hloop hnone
        obtain ⟨rsp', htable⟩ := hloop
        rw [htable]
        dsimp only
        cases hhandler : cls.tblCopy with
        | none =>
            rw [getTable, hhandler]
        | some handler =>
            rw [hhandler] at hnone
            exact absurd hnone nofun
  · rfl

/-- A GET that reads a table does what its table part does. -/
theorem getActionHandle_table {cls : TblClass ω} {ref : MeRef} {env : GetEnv ω}
    {state : GetState ω} {msg : OmciMsg} {get : TableGet ω}
    (hget : tableGet cls ref env state.store msg = some get)
    (instanceId : InstanceId) (rsp : OmciMsg) :
    cls.tblCopy = some get.handler ∧ ∃ rsp',
      getActionHandle cls ref instanceId env state msg rsp =
        getTable cls ref ⟨cls.classId, instanceId, get.attr.val + 1⟩ get.attr env
          ⟨get.store, state.copies⟩ rsp' := by
  rw [tableGet] at hget
  rw [getActionHandle]
  dsimp only at hget ⊢
  split at hget
  · rename_i store hcounters
    rw [hcounters]
    dsimp only
    have hloop := getAttrs_eq cls ref instanceId (msg.field16 0) (getInterval msg) env
      (List.finRange 16) ⟨store, state.copies⟩ ⟨0, 0, 0, 0, 0, rsp.write 1 (octets16 (msg.field16 0))⟩
    dsimp only at hloop
    split at hget
    · rename_i attr store' handler hattr hhandler
      obtain rfl := Option.some.inj hget
      rw [hattr] at hloop
      obtain ⟨rsp', htable⟩ := hloop
      rw [htable]
      exact ⟨hhandler, rsp', rfl⟩
    · exact absurd hget nofun
  · exact absurd hget nofun

namespace TableGet

def key (get : TableGet ω) (cls : TblClass ω) (instanceId : InstanceId) : TblKey :=
  ⟨cls.classId, instanceId, get.attr.val + 1⟩

/-- The copy that the class's handler provides, if it succeeds. -/
def copied (get : TableGet ω) (ref : MeRef) (key : TblKey) (copies : TblCopies ω) :
    Option (TblCopied ω) :=
  match copies.meTblCopyEmptyGet key with
  | some (copies, i) =>
      match get.handler.run ref get.attr get.store
        { (copies.array i).toTblCopied with freeData := true } with
      | (.success, copied) => some copied
      | _ => none
  | none => none

end TableGet

section GetTable

variable {cls : TblClass ω} {ref : MeRef} {key : TblKey} {env : GetEnv ω} {get : TableGet ω}
  {copies : TblCopies ω}

/-- A copied table: the new copy stands in the cache and its size is announced. -/
theorem getTable_copied (hconsistent : copies.Consistent) (hattr : key.attr ≠ 0)
    (hhandler : cls.tblCopy = some get.handler) (hgranted : env.timeoutEventAdd = true)
    {copied : TblCopied ω} (hcopied : get.copied ref key copies = some copied) (rsp : OmciMsg) :
    ∃ after i, getTable cls ref key get.attr env ⟨get.store, copies⟩ rsp =
        ⟨⟨get.store, after⟩, .success, getTblRsp rsp get.attr copied.dataSize⟩ ∧
      after.Consistent ∧ copies.Placed key after i ∧ (after.array i).toTblCopied = copied ∧
      (after.array i).timeoutId = copies.lastTimeoutId + 1 := by
  obtain ⟨placed, i, hempty, hplacedConsistent, hplaced, hlast⟩ :=
    TblCopies.meTblCopyEmptyGet_spec hconsistent hattr
  rw [TableGet.copied, hempty] at hcopied
  dsimp only at hcopied
  split at hcopied
  · rename_i copied' hrun
    obtain rfl := Option.some.inj hcopied
    have hset : (placed.set i { placed.array i with toTblCopied := copied' }).Consistent :=
      hplacedConsistent.set_copied (by rw [hplaced.entryKey]; exact hattr) rfl rfl hplaced.valid
    have hkey : ((placed.set i { placed.array i with toTblCopied := copied' }).array i).toTblKey =
        key := by
      rw [TblCopies.array_set_self]
      exact hplaced.entryKey
    have hvalid : ((placed.set i { placed.array i with toTblCopied := copied' }).array i).valid =
        true := by
      rw [TblCopies.array_set_self]
      exact hplaced.valid
    -- the timer that the entry remembers is removed, if there is one
    have hremoved : ∀ removed, removed =
        (if (placed.array i).timeoutId = 0 then
          placed.set i { placed.array i with toTblCopied := copied' }
        else (placed.set i { placed.array i with toTblCopied := copied' }).timeoutEventRemove
          (placed.array i).timeoutId) →
        removed = (placed.set i { placed.array i with toTblCopied := copied' }).timeoutEventRemove
            ((placed.set i { placed.array i with toTblCopied := copied' }).array i).timeoutId ∨
          removed = placed.set i { placed.array i with toTblCopied := copied' } ∧
            ((placed.set i { placed.array i with toTblCopied := copied' }).array i).timeoutId = 0 := by
      rintro removed rfl
      rw [TblCopies.array_set_self]
      split
      · rename_i hzero
        exact .inr ⟨rfl, hzero⟩
      · exact .inl rfl
    obtain ⟨after, hadd, hafter, hself, hother⟩ := hset.rearm hattr hkey hvalid (hremoved _ rfl)
    rw [TblCopies.array_set_self] at hself
    refine ⟨after, i, ?_, hafter, ⟨?_, ?_, ?_, hplaced.lost⟩, ?_, ?_⟩
    · rw [getTable, hhandler]
      dsimp only
      rw [hempty]
      dsimp only
      rw [hrun]
      dsimp only
      rw [hgranted, hadd]
    · rw [hself]
      exact hplaced.entryKey
    · rw [hself]
      exact hplaced.valid
    · intro j hj
      rw [hother j hj, TblCopies.array_set_of_ne _ hj, hplaced.other j hj]
    · rw [hself]
    · rw [hself, TblCopies.lastTimeoutId_set, hlast]
  · exact absurd hcopied nofun

/-- A table that cannot be copied has an entry nevertheless. -/
theorem getTable_failed (hconsistent : copies.Consistent) (hattr : key.attr ≠ 0)
    (hhandler : cls.tblCopy = some get.handler)
    (hcopied : get.copied ref key copies = none) (rsp : OmciMsg) :
    ∃ after i,
      (getTable cls ref key get.attr env ⟨get.store, copies⟩ rsp).state = ⟨get.store, after⟩ ∧
      after.Consistent ∧ copies.Placed key after i := by
  obtain ⟨placed, i, hempty, hplacedConsistent, hplaced, -⟩ :=
    TblCopies.meTblCopyEmptyGet_spec hconsistent hattr
  rw [TableGet.copied, hempty] at hcopied
  dsimp only at hcopied
  rw [getTable, hhandler]
  dsimp only
  rw [hempty]
  dsimp only
  generalize get.handler.run ref get.attr get.store
    { (placed.array i).toTblCopied with freeData := true } = run at hcopied
  obtain ⟨err, copied⟩ := run
  have hset : (placed.set i { placed.array i with toTblCopied := copied }).Consistent :=
    hplacedConsistent.set_copied (by rw [hplaced.entryKey]; exact hattr) rfl rfl hplaced.valid
  cases err with
  | success => exact absurd hcopied nofun
  | _ => exact ⟨_, i, rfl, hset, hplaced.set hplaced.entryKey hplaced.valid⟩

end GetTable

/-! ## Reading the pieces -/

def tblChunk (bytes : List Byte) (seqNum : Nat) : List Byte :=
  slice (fun i => bytes.getD i 0) (getNextRspValuesSize * seqNum) getNextRspValuesSize

def tblChunks (bytes : List Byte) : Nat :=
  (bytes.length + getNextRspValuesSize - 1) / getNextRspValuesSize

theorem flatMap_tblChunk (bytes : List Byte) :
    ((List.range (tblChunks bytes)).flatMap (tblChunk bytes)).take bytes.length = bytes := by
  have hsize : bytes.length ≤ getNextRspValuesSize * tblChunks bytes := by
    simp only [tblChunks, getNextRspValuesSize]
    omega
  show ((List.range (tblChunks bytes)).flatMap fun k => slice (fun i => bytes.getD i 0)
    (getNextRspValuesSize * k) getNextRspValuesSize).take bytes.length = bytes
  rw [flatMap_slice, take_slice _ 0 hsize]
  apply List.ext_getElem
  · rw [length_slice]
  · intro i _ hi
    simp [slice, hi]

theorem lt_tblChunks (bytes : List Byte) (seqNum : Nat) :
    seqNum < tblChunks bytes ↔ getNextRspValuesSize * seqNum < bytes.length := by
  simp only [tblChunks, getNextRspValuesSize]
  omega

theorem getNextChunk_of_lt {dataSize : Nat} {seqNum : BitVec 16}
    (h : getNextRspValuesSize * seqNum.toNat < dataSize) :
    getNextChunk dataSize seqNum = some (getNextRspValuesSize * seqNum.toNat,
      min getNextRspValuesSize (dataSize - getNextRspValuesSize * seqNum.toNat)) := by
  rw [getNextChunk]
  split
  · rw [Nat.min_eq_right (by omega)]
  · rw [Nat.min_eq_left (by omega)]

theorem getNextChunk_of_le {dataSize : Nat} {seqNum : BitVec 16}
    (h : dataSize ≤ getNextRspValuesSize * seqNum.toNat) : getNextChunk dataSize seqNum = none := by
  rw [getNextChunk, if_pos (by simp only [getNextRspValuesSize] at h ⊢; omega), if_neg (Nat.not_lt.mpr h)]

/-- The values of a response are the piece asked for. -/
theorem slice_getNextRsp (outer : ω) (copied : TblCopied ω) (msg : OmciMsg) (seqNum : Nat) :
    let offset := getNextRspValuesSize * seqNum
    let rsp := (rspCreate msg).write 1 (octets16 (msg.field16 0))
    let rsp :=
      match copied.data with
      | some data => rsp.write 3 (slice (data.show outer) offset
          (min getNextRspValuesSize (copied.dataSize - offset)))
      | none => rsp
    slice rsp.octet 3 getNextRspValuesSize = tblChunk (copied.shown outer) seqNum ∧
      rsp.result = mrCmdSuccess := by
  have hblank : ∀ i < getNextRspValuesSize,
      ((rspCreate msg).write 1 (octets16 (msg.field16 0))).octet (3 + i) = 0 := by
    intro i hi
    simp only [getNextRspValuesSize] at hi
    rw [OmciMsg.octet_write _ _ _ (by omega), patch_of_le (by simp [octets16]),
      octet_rspCreate]
  have hresult : ((rspCreate msg).write 1 (octets16 (msg.field16 0))).result = mrCmdSuccess := by
    rw [OmciMsg.result_write _ _ Nat.one_pos]
    exact octet_rspCreate msg 0
  dsimp only
  rw [tblChunk, TblCopied.shown]
  cases copied.data with
  | none =>
      refine ⟨slice_eq_iff.mpr fun i hi => ?_, hresult⟩
      rw [hblank i hi, List.getD_eq_getElem?_getD, List.getElem?_replicate]
      split <;> rfl
  | some data =>
      dsimp only
      refine ⟨slice_eq_iff.mpr fun i hi => ?_, by rw [OmciMsg.result_write _ _ (by decide), hresult]⟩
      have hi' := hi
      simp only [getNextRspValuesSize] at hi'
      rw [OmciMsg.octet_write _ _ _ (by omega), patch, if_pos (by omega), hblank i hi,
        Nat.add_sub_cancel_left]
      by_cases hsize : getNextRspValuesSize * seqNum + i < copied.dataSize
      · have hmin : i < min getNextRspValuesSize
            (copied.dataSize - getNextRspValuesSize * seqNum) := by omega
        simp [slice, hmin, hsize]
      · have hmin : ¬ i < min getNextRspValuesSize
            (copied.dataSize - getNextRspValuesSize * seqNum) := by omega
        simp [slice, hmin, hsize]

section GetNext

variable {state : GetState ω} {classId : ClassId} {instanceId : InstanceId} {env : GetEnv ω}
  {msg : OmciMsg} {attr : Attr} {i : Fin omciTableCopyNum}

/-- The attribute asked for has a copy. -/
structure Asked (state : GetState ω) (classId : ClassId) (instanceId : InstanceId)
    (msg : OmciMsg) (attr : Attr) (i : Fin omciTableCopyNum) : Prop where
  consistent : state.copies.Consistent
  asked : getNextAttr (msg.field16 0) = some attr
  entryKey : (state.copies.array i).toTblKey = ⟨classId, instanceId, attr.val + 1⟩
  valid : (state.copies.array i).valid = true

theorem Asked.find (h : Asked state classId instanceId msg attr i) :
    state.copies.meTblCopyFind ⟨classId, instanceId, attr.val + 1⟩ = some i := by
  rw [h.consistent.meTblCopyFind_eq (Nat.succ_ne_zero _) h.entryKey, if_pos h.valid]

/-- A piece within the copy is returned, and the timer of the copy starts anew. -/
theorem getNextActionHandle_of_lt (h : Asked state classId instanceId msg attr i)
    (hgranted : env.timeoutEventAdd = true)
    (hseq : getNextRspValuesSize * (msg.field16 2).toNat < (state.copies.array i).dataSize) :
    ∃ armed rsp, getNextActionHandle classId instanceId env state msg (rspCreate msg) =
        ⟨⟨state.store, armed⟩, .success, rsp⟩ ∧
      rsp.result = mrCmdSuccess ∧
      slice rsp.octet 3 getNextRspValuesSize =
        tblChunk ((state.copies.array i).toTblCopied.shown state.store.outer)
          (msg.field16 2).toNat ∧
      armed.Consistent ∧
      armed.array i = { state.copies.array i with
        timeoutId := state.copies.lastTimeoutId + 1 } ∧
      ∀ j, j ≠ i → armed.array j = state.copies.array j := by
  obtain ⟨armed, hadd, harmed, hself, hother⟩ :=
    h.consistent.rearm (Nat.succ_ne_zero _) h.entryKey h.valid (.inl rfl)
  have hrsp := slice_getNextRsp state.store.outer (state.copies.array i).toTblCopied msg
    (msg.field16 2).toNat
  refine ⟨armed, _, ?_, hrsp.2, hrsp.1, harmed, hself, hother⟩
  rw [getNextActionHandle]
  dsimp only
  rw [h.asked]
  dsimp only
  rw [h.find]
  dsimp only
  rw [getNextChunk_of_lt hseq]
  dsimp only
  rewrite [hgranted, hadd]
  cases (state.copies.array i).data <;> rfl

theorem getNextActionHandle_of_le (h : Asked state classId instanceId msg attr i)
    (hseq : (state.copies.array i).dataSize ≤ getNextRspValuesSize * (msg.field16 2).toNat)
    (rsp : OmciMsg) :
    getNextActionHandle classId instanceId env state msg rsp =
      ⟨state, .action, (rsp.write 1 (octets16 (msg.field16 0))).withResult mrParamError⟩ := by
  rw [getNextActionHandle]
  dsimp only
  rw [h.asked]
  dsimp only
  rw [h.find]
  dsimp only
  rw [getNextChunk_of_le hseq]

end GetNext

end FalconGpon.Omci
