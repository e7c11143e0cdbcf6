/-
# The timers of table copies

A copy of a table is cleared by its timer, so every entry of the cache that is in use should have
one (`SlotsRight`). What else is asked of the cache holds in every run (`Kept`): one entry in use
for an attribute, memory that is freed exactly if it was allocated, and no timer of an entry that
is free. A GET whose table cannot be copied takes an entry and gives it no timer, and a timer that
cannot be started leaves its entry in use; `slotsRight_along_iff` shows that there is nothing else.
-/

import FalconGpon.Omci.TableRead

namespace FalconGpon.Omci

open FalconGpon.Lib

variable {ω : Type}

/-- What the entry refers to is freed exactly if it was allocated. -/
def TblCopied.Owned (copied : TblCopied ω) : Prop :=
  match copied.data with
  | some (.heap _) => copied.freeData = true
  | some (.live _) => copied.freeData = false
  | none => True

def TblCopied.NoHeap (copied : TblCopied ω) : Prop :=
  ∀ bytes, copied.data ≠ some (.heap bytes)

/-- A class whose `tbl_copy` allocates the copy of an attribute, or, for the attributes in
`points`, refers to memory of the class and says so. -/
structure OwnedClass (points : ClassId → Attr → Prop) (ω : Type) extends TblClass ω where
  allocates : ∀ handler ∈ tblCopy, ∀ attr, ¬ points classId attr → ∀ ref store copied,
    copied.data = none → copied.freeData = true →
      (handler.run ref attr store copied).2.freeData = true ∧
        ∀ read, (handler.run ref attr store copied).2.data ≠ some (.live read)
  refers : ∀ handler ∈ tblCopy, ∀ attr, points classId attr → ∀ ref store copied,
    (handler.run ref attr store copied).2.freeData = false ∧
      (handler.run ref attr store copied).2.NoHeap

namespace TblCopies

variable {copies : TblCopies ω} {i j : Fin omciTableCopyNum} {key : TblKey}
  {points : ClassId → Attr → Prop}

/-- What the cache should be. -/
structure SlotsRight (copies : TblCopies ω) : Prop where
  unique : ∀ i j, (copies.array i).valid = true → (copies.array j).valid = true →
    (copies.array i).toTblKey = (copies.array j).toTblKey → i = j
  owned : ∀ i, (copies.array i).valid = true → (copies.array i).Owned
  timer : ∀ i, (copies.array i).valid = true →
    ∃! timeout, timeout ∈ copies.timeouts ∧ timeout.2 = (copies.array i).toTblKey ∧
      timeout.1 = (copies.array i).timeoutId
  free : ∀ i, (copies.array i).valid = false →
    (copies.array i).timeoutId = 0 ∧ (copies.array i).NoHeap
  /-- A timer clears the entry that remembers it. -/
  fires : ∀ timeout ∈ copies.timeouts, ∃ i, copies.meTblCopyFind timeout.2 = some i ∧
    (copies.array i).timeoutId = timeout.1

/-- What holds of the cache in every run. -/
structure Kept (points : ClassId → Attr → Prop) (copies : TblCopies ω) : Prop where
  consistent : copies.Consistent
  attr : ∀ i, (copies.array i).valid = true → (copies.array i).attr ≠ 0
  owned : ∀ i, (copies.array i).Owned
  pointed : ∀ i read, (copies.array i).data = some (.live read) →
    ∃ attr : Attr, (copies.array i).attr = attr.val + 1 ∧ points (copies.array i).classId attr
  free : ∀ i, (copies.array i).valid = false →
    (copies.array i).timeoutId = 0 ∧ (copies.array i).NoHeap
  fresh : ∀ timeout ∈ copies.timeouts, timeout.1 ≤ copies.lastTimeoutId
  nodup : (copies.timeouts.map Prod.fst).Nodup

/-- Every entry in use has a timer. -/
def Armed (copies : TblCopies ω) : Prop :=
  ∀ i, (copies.array i).valid = true →
    ∃ timeout ∈ copies.timeouts, timeout.2 = (copies.array i).toTblKey

/-- The other entries in use have timers, which are not the one that this entry remembers. -/
def ArmedElse (copies : TblCopies ω) (i : Fin omciTableCopyNum) : Prop :=
  ∀ j, j ≠ i → (copies.array j).valid = true →
    ∃ timeout ∈ copies.timeouts, timeout.2 = (copies.array j).toTblKey ∧
      timeout.1 ≠ (copies.array i).timeoutId

theorem slotsRight_iff (h : copies.Kept points) : copies.SlotsRight ↔ copies.Armed := by
  constructor
  · intro hright i hvalid
    have ⟨timeout, ⟨hmem, hkey, _⟩, _⟩ := hright.timer i hvalid
    exact ⟨timeout, hmem, hkey⟩
  · intro harmed
    refine ⟨fun i j hi _ hsame => h.consistent.unique i j hsame (h.attr i hi),
      fun i _ => h.owned i, fun i hi => ?_, h.free, fun timeout hmem => ?_⟩
    · have ⟨timeout, hmem, hkey⟩ := harmed i hi
      have hid := h.consistent.timeoutId_eq (h.attr i hi) hmem hkey.symm
      refine ⟨timeout, ⟨hmem, hkey, hid.symm⟩, fun other hother => ?_⟩
      exact List.inj_on_of_nodup_map h.nodup hother.1 hmem (hother.2.2.trans hid)
    · have ⟨_, hattr, i, hkey, hid, hvalid⟩ := h.consistent.owner timeout hmem
      refine ⟨i, ?_, hid⟩
      rw [h.consistent.meTblCopyFind_eq hattr hkey, if_pos hvalid]

namespace Kept

theorem init : (tblCopyInit : TblCopies ω).Kept points where
  consistent := consistent_tblCopyInit
  attr _ hvalid := absurd hvalid Bool.false_ne_true
  owned _ := trivial
  pointed _ _ hdata := absurd hdata nofun
  free _ _ := ⟨rfl, nofun⟩
  fresh _ hmem := absurd hmem List.not_mem_nil
  nodup := List.nodup_nil

theorem timeoutEventRemove (h : copies.Kept points) (timeoutId : Nat) :
    (copies.timeoutEventRemove timeoutId).Kept points where
  consistent := h.consistent.timeoutEventRemove timeoutId
  attr := h.attr
  owned := h.owned
  pointed := h.pointed
  free := h.free
  fresh timeout hmem := h.fresh timeout (mem_timeoutEventRemove.mp hmem).1
  nodup := h.nodup.sublist (List.filter_sublist.map _)

theorem set (h : copies.Kept points) {entry : TblCopyEntry ω}
    (hconsistent : (copies.set i entry).Consistent) (hattr : entry.valid = true → entry.attr ≠ 0)
    (howned : entry.Owned) (hpointed : ∀ read, entry.data = some (.live read) →
      ∃ attr : Attr, entry.attr = attr.val + 1 ∧ points entry.classId attr)
    (hfree : entry.valid = false → entry.timeoutId = 0 ∧ entry.NoHeap) :
    (copies.set i entry).Kept points := by
  have hentry : ∀ P : TblCopyEntry ω → Prop, P entry → (∀ j, P (copies.array j)) →
      ∀ j, P ((copies.set i entry).array j) := by
    intro P hnew hold j
    by_cases hj : j = i
    · rw [hj, array_set_self]
      exact hnew
    · rw [array_set_of_ne entry hj]
      exact hold j
  exact
    { consistent := hconsistent
      attr := hentry (fun slot => slot.valid = true → slot.attr ≠ 0) hattr h.attr
      owned := hentry (fun slot => slot.Owned) howned h.owned
      pointed := hentry (fun slot => ∀ read, slot.data = some (.live read) →
        ∃ attr : Attr, slot.attr = attr.val + 1 ∧ points slot.classId attr) hpointed h.pointed
      free := hentry (fun slot => slot.valid = false → slot.timeoutId = 0 ∧ slot.NoHeap) hfree h.free
      fresh := h.fresh
      nodup := h.nodup }

theorem timeoutEventRemove_zero (h : copies.Kept points) : copies.timeoutEventRemove 0 = copies := by
  have hall : copies.timeouts.filter (fun timeout => timeout.1 != 0) = copies.timeouts := by
    apply List.filter_eq_self.mpr
    intro timeout hmem
    exact bne_iff_ne.mpr (h.consistent.owner timeout hmem).1
  rw [TblCopies.timeoutEventRemove, hall]

/-- The timer of another entry is another one. -/
theorem armed_else (h : copies.Kept points) (harmed : copies.Armed) (i : Fin omciTableCopyNum) :
    copies.ArmedElse i := by
  intro j hne hj
  have ⟨timeout, hmem, hkey⟩ := harmed j hj
  refine ⟨timeout, hmem, hkey, fun hsame => hne ?_⟩
  cases hi : (copies.array i).valid with
  | true =>
      have ⟨other, hother, hotherKey⟩ := harmed i hi
      have hid := h.consistent.timeoutId_eq (h.attr i hi) hother hotherKey.symm
      have htimeout : timeout = other :=
        List.inj_on_of_nodup_map h.nodup hmem hother (hsame.trans hid)
      exact h.consistent.unique j i (hkey.symm.trans (htimeout ▸ hotherKey)) (h.attr j hj)
  | false =>
      rw [(h.free i hi).1] at hsame
      exact absurd hsame (h.consistent.owner timeout hmem).1

/-- An entry in use gets a new timer in place of the one that it remembers. -/
theorem rearm (h : copies.Kept points) (hattr : key.attr ≠ 0)
    (hkey : (copies.array i).toTblKey = key) (hvalid : (copies.array i).valid = true)
    (granted : Bool) :
    let removed := copies.timeoutEventRemove (copies.array i).timeoutId
    let after := (removed.timeoutEventAdd granted i key).getD removed
    after.Kept points ∧ (copies.ArmedElse i → (after.Armed ↔ granted = true)) := by
  intro removed after
  have hremoved := h.timeoutEventRemove (copies.array i).timeoutId
  have hnone : ∀ timeout ∈ removed.timeouts, timeout.2 ≠ key := by
    intro timeout hmem hsame
    have ⟨hold, hid⟩ := mem_timeoutEventRemove.mp hmem
    have hattr' : (copies.array i).attr ≠ 0 := by
      rw [hkey]
      exact hattr
    exact hid (h.consistent.timeoutId_eq hattr' hold (hkey.trans hsame.symm)).symm
  cases granted with
  | false =>
      refine ⟨hremoved, fun _ => iff_of_false (fun harmed => ?_) Bool.false_ne_true⟩
      have ⟨timeout, hmem, hsame⟩ := harmed i hvalid
      exact hnone timeout hmem (hsame.trans hkey)
  | true =>
      have hconsistent : after.Consistent :=
        hremoved.consistent.timeoutEventAdd hattr hkey hvalid hnone rfl
      have hset : (removed.set i { removed.array i with
          timeoutId := removed.lastTimeoutId + 1 }).Kept points :=
        hremoved.set ⟨hconsistent.unique, fun timeout hmem =>
            hconsistent.owner timeout (List.mem_append_left _ hmem)⟩
          (h.attr i) (h.owned i) (h.pointed i) fun hfree => absurd (hvalid.symm.trans hfree) nofun
      have hfresh : ∀ timeout ∈ removed.timeouts, timeout.1 ≤ removed.lastTimeoutId :=
        hremoved.fresh
      refine ⟨⟨hconsistent, hset.attr, hset.owned, hset.pointed, hset.free, ?_, ?_⟩,
        fun helse => iff_of_true (fun j hj => ?_) rfl⟩
      · intro timeout hmem
        cases List.mem_append.mp hmem with
        | inl hold => exact Nat.le_succ_of_le (hfresh timeout hold)
        | inr hnew => exact List.mem_singleton.mp hnew ▸ Nat.le_refl _
      · show ((removed.timeouts ++ [(removed.lastTimeoutId + 1, key)]).map Prod.fst).Nodup
        rw [List.map_append, List.nodup_append]
        refine ⟨hremoved.nodup, List.nodup_singleton _, fun id hid other hother hsame => ?_⟩
        have ⟨timeout, hmem, hfst⟩ := List.mem_map.mp hid
        have hnew : other = removed.lastTimeoutId + 1 := List.mem_singleton.mp hother
        have hle := hfresh timeout hmem
        omega
      · by_cases hji : j = i
        · refine ⟨(removed.lastTimeoutId + 1, key), List.mem_append_right _ List.mem_cons_self, ?_⟩
          show key = ((removed.set i _).array j).toTblKey
          rw [hji, array_set_self]
          exact hkey.symm
        · have hentry : after.array j = copies.array j := array_set_of_ne _ hji
          rw [hentry] at hj ⊢
          have ⟨timeout, hmem, hsame, hid⟩ := helse j hji hj
          exact ⟨timeout, List.mem_append_left _ (mem_timeoutEventRemove.mpr ⟨hmem, hid⟩), hsame⟩

end Kept

/-! ## The operations -/

/-- An attribute was given an entry, of which the memory is freed. -/
structure Emptied (points : ClassId → Attr → Prop) (copies : TblCopies ω) (key : TblKey)
    (placed : TblCopies ω) (i : Fin omciTableCopyNum) : Prop where
  kept : placed.Kept points
  entryKey : (placed.array i).toTblKey = key
  valid : (placed.array i).valid = true
  noHeap : (placed.array i).NoHeap
  others : copies.Armed → placed.ArmedElse i
  armed : copies.Armed → ((∃ timeout ∈ placed.timeouts, timeout.2 = key) ↔
    ∃ j, (copies.array j).toTblKey = key ∧ (copies.array j).valid = true)

theorem Kept.exists_timer_iff (h : copies.Kept points) (harmed : copies.Armed) :
    (∃ timeout ∈ copies.timeouts, timeout.2 = key) ↔
      ∃ j, (copies.array j).toTblKey = key ∧ (copies.array j).valid = true := by
  constructor
  · rintro ⟨timeout, hmem, hkey⟩
    have ⟨_, _, j, hj, _, hvalid⟩ := h.consistent.owner timeout hmem
    exact ⟨j, hj.trans hkey, hvalid⟩
  · rintro ⟨j, hj, hvalid⟩
    have ⟨timeout, hmem, hkey⟩ := harmed j hvalid
    exact ⟨timeout, hmem, hkey.trans hj⟩

theorem Kept.emptied (h : copies.Kept points) (hattr : key.attr ≠ 0) :
    ∃ placed i, copies.meTblCopyEmptyGet key = some (placed, i) ∧
      copies.Emptied points key placed i := by
  obtain ⟨placed, i, hget, hconsistent, hplaced, _⟩ := meTblCopyEmptyGet_spec h.consistent hattr
  refine ⟨placed, i, hget, ?_⟩
  rw [meTblCopyEmptyGet] at hget
  dsimp only at hget
  split at hget
  · rename_i k hsame
    obtain ⟨hset, hk⟩ := Prod.mk.inj (Option.some.inj hget)
    subst hset hk
    have hkey : (copies.array k).toTblKey = key := by simpa using List.find?_some hsame
    have hnone : (TblCopyEntry.renewed (copies.array k)).NoHeap := by
      intro bytes hdata
      have howned := h.owned k
      cases hfree : (copies.array k).freeData with
      | true => simp [TblCopyEntry.renewed, hfree] at hdata
      | false =>
          simp only [TblCopyEntry.renewed, hfree, Bool.false_eq_true, if_false] at hdata
          simp [TblCopied.Owned, hdata, hfree] at howned
    have howned : (TblCopyEntry.renewed (copies.array k)).Owned := by
      have hold := h.owned k
      cases hfree : (copies.array k).freeData with
      | true => simp [TblCopied.Owned, TblCopyEntry.renewed, hfree]
      | false => simpa [TblCopied.Owned, TblCopyEntry.renewed, hfree] using hold
    have hpointed : ∀ read, (TblCopyEntry.renewed (copies.array k)).data = some (.live read) →
        ∃ attr : Attr, (copies.array k).attr = attr.val + 1 ∧
          points (copies.array k).classId attr := by
      intro read hdata
      cases hfree : (copies.array k).freeData with
      | true => simp [TblCopyEntry.renewed, hfree] at hdata
      | false =>
          simp only [TblCopyEntry.renewed, hfree, Bool.false_eq_true, if_false] at hdata
          exact h.pointed k read hdata
    refine ⟨h.set hconsistent (fun _ => by rw [← hkey] at hattr; exact hattr) howned hpointed
        (fun hvalid => by cases hvalid),
      hplaced.entryKey, hplaced.valid, ?_, ?_, fun harmed => h.exists_timer_iff harmed⟩
    · rw [array_set_self]
      exact hnone
    · intro harmed j hj hvalid
      rw [hplaced.other j hj] at hvalid ⊢
      rw [array_set_self]
      exact h.armed_else harmed k j hj hvalid
  · rename_i hsame
    have hnew : ∀ j, (copies.array j).toTblKey ≠ key := by simpa using hsame
    split at hget
    · rename_i k hfree
      obtain ⟨hset, hk⟩ := Prod.mk.inj (Option.some.inj hget)
      subst hset hk
      refine ⟨h.set hconsistent (fun _ => hattr) trivial (fun _ hdata => by cases hdata)
          (fun hvalid => by cases hvalid),
        hplaced.entryKey, hplaced.valid, ?_, ?_, fun harmed => h.exists_timer_iff harmed⟩
      · rw [array_set_self]
        exact fun _ hdata => by cases hdata
      · intro harmed j hj hvalid
        rw [hplaced.other j hj] at hvalid ⊢
        rw [array_set_self]
        exact h.armed_else harmed k j hj hvalid
    · split at hget
      · rename_i k _
        obtain ⟨hset, hk⟩ := Prod.mk.inj (Option.some.inj hget)
        subst hset hk
        refine ⟨(h.timeoutEventRemove _).set hconsistent (fun _ => hattr) trivial
            (fun _ hdata => by cases hdata) (fun hvalid => by cases hvalid),
          hplaced.entryKey, hplaced.valid, ?_, ?_, fun _ => iff_of_false ?_ ?_⟩
        · rw [array_set_self]
          exact fun _ hdata => by cases hdata
        · intro harmed j hj hvalid
          rw [hplaced.other j hj] at hvalid ⊢
          rw [array_set_self]
          obtain ⟨timeout, hmem, hkey, hid⟩ := h.armed_else harmed k j hj hvalid
          exact ⟨timeout, mem_timeoutEventRemove.mpr ⟨hmem, hid⟩, hkey, hid⟩
        · rintro ⟨timeout, hmem, hkey⟩
          obtain ⟨_, _, j, hj, _⟩ := h.consistent.owner timeout (mem_timeoutEventRemove.mp hmem).1
          exact hnew j (hj.trans hkey)
        · rintro ⟨j, hj, _⟩
          exact hnew j hj
      · cases hget

/-- The timer of an entry fires: the entry is free, and the others are as they were. -/
theorem Kept.timeout (h : copies.Kept points) {timeoutId : Nat} {after : TblCopies ω}
    (hafter : copies.timeout timeoutId = some after) :
    after.Kept points ∧ (copies.Armed → after.Armed) := by
  rw [TblCopies.timeout] at hafter
  split at hafter
  · rename_i id key hfind
    have hset := Option.some.inj hafter
    subst hset
    have hid : id = timeoutId := by simpa using List.find?_some hfind
    subst hid
    obtain ⟨_, hattr, i, hkey, hentryId, hvalid⟩ :=
      h.consistent.owner (id, key) (List.mem_of_find?_eq_some hfind)
    have hattr' : (copies.array i).attr ≠ 0 := by
      rw [hkey]
      exact hattr
    have hclean : copies.clean key = copies.set i
        { copies.array i with
          data := if (copies.array i).freeData then none else (copies.array i).data
          valid := false
          timeoutId := 0 } := by
      rw [TblCopies.clean, h.consistent.meTblCopyFind_eq hattr hkey, if_pos hvalid]
    rw [hclean]
    have hremoved := h.timeoutEventRemove id
    refine ⟨hremoved.set ?_ (fun h => by cases h) ?_ ?_ fun _ => ⟨rfl, ?_⟩, fun harmed j hj => ?_⟩
    · apply hremoved.consistent.set
      · intro j hj
        exact (h.consistent.unique i j hj.symm hattr').symm
      · intro timeout hmem _ hsame _
        exact absurd (hsame.symm.trans hentryId) (mem_timeoutEventRemove.mp hmem).2
    · have hold := h.owned i
      cases hfree : (copies.array i).freeData with
      | true => simp [TblCopied.Owned]
      | false => simpa [TblCopied.Owned, hfree] using hold
    · intro read hdata
      cases hfree : (copies.array i).freeData with
      | true => simp [hfree] at hdata
      | false => exact h.pointed i read (by simpa [hfree] using hdata)
    · intro bytes hdata
      have hold := h.owned i
      cases hfree : (copies.array i).freeData with
      | true => simp [hfree] at hdata
      | false =>
          have hheap : (copies.array i).data = some (.heap bytes) := by simpa [hfree] using hdata
          simp [TblCopied.Owned, hheap, hfree] at hold
    · by_cases hji : j = i
      · rw [hji] at hj
        exact absurd ((congrArg _ (array_set_self i _)).symm.trans hj) Bool.false_ne_true
      · have hentry := @TblCopies.array_set_of_ne _ copies i j { copies.array i with
            data := if (copies.array i).freeData then none else (copies.array i).data
            valid := false
            timeoutId := 0 } hji
        have hvalidJ : (copies.array j).valid = true := hentry ▸ hj
        obtain ⟨timeout, hmem, hsame, hother⟩ := h.armed_else harmed i j hji hvalidJ
        rw [hentryId] at hother
        refine ⟨timeout, mem_timeoutEventRemove.mpr ⟨hmem, hother⟩, ?_⟩
        exact hsame.trans (congrArg (·.toTblKey) hentry).symm
  · cases hafter

end TblCopies

/-! ## Runs -/

/-- What can happen. A MIB reset changes the store, like a SET; neither touches the copies. -/
inductive CacheEvent (points : ClassId → Attr → Prop) (ω : Type)
  | get (cls : OwnedClass points ω) (ref : MeRef) (instanceId : InstanceId) (env : GetEnv ω)
      (msg : OmciMsg)
  | getNext (classId : ClassId) (instanceId : InstanceId) (env : GetEnv ω) (msg : OmciMsg)
  | timeout (timeoutId : Nat)
  | store (store : Store ω)

section Runs

variable {points : ClassId → Attr → Prop}

def cacheStep (state : GetState ω) : CacheEvent points ω → Option (GetState ω)
  | .get cls ref instanceId env msg =>
      some (getActionHandle cls.toTblClass ref instanceId env state msg (rspCreate msg)).state
  | .getNext classId instanceId env msg =>
      some (getNextActionHandle classId instanceId env state msg (rspCreate msg)).state
  | .timeout timeoutId =>
      (state.copies.timeout timeoutId).map fun copies => { state with copies := copies }
  | .store store => some { state with store := store }

/-- The condition on a step: a GET of a table that cannot be copied finds a copy of it in use, and
where a copy is made or read on there is memory for its timer. -/
def TimerGuard (state : GetState ω) : CacheEvent points ω → Prop
  | .get cls ref instanceId env msg =>
      ∀ get ∈ tableGet cls.toTblClass ref env state.store msg,
        let key := get.key cls.toTblClass instanceId
        if (get.copied ref key state.copies).isSome then env.timeoutEventAdd = true
        else ∃ i, (state.copies.array i).toTblKey = key ∧ (state.copies.array i).valid = true
  | .getNext classId instanceId env msg =>
      ∀ attr i, getNextAttr (msg.field16 0) = some attr →
        state.copies.meTblCopyFind ⟨classId, instanceId, attr.val + 1⟩ = some i →
        getNextRspValuesSize * (msg.field16 2).toNat < (state.copies.array i).dataSize →
        env.timeoutEventAdd = true
  | .timeout _ | .store _ => True

variable {state : GetState ω}

/-- What a handler leaves in an entry that was emptied. -/
theorem OwnedClass.owned (cls : OwnedClass points ω) {handler : TblCopyHandler ω}
    (hhandler : handler ∈ cls.tblCopy) {attr : Attr} {copied : TblCopied ω} (hheap : copied.NoHeap)
    (hlive : ∀ read, copied.data = some (.live read) → points cls.classId attr)
    (hfree : copied.freeData = true) (ref : MeRef) (store : Store ω) :
    (handler.run ref attr store copied).2.Owned ∧
      ∀ read, (handler.run ref attr store copied).2.data = some (.live read) →
        points cls.classId attr := by
  unfold TblCopied.Owned
  by_cases hpoints : points cls.classId attr
  · have ⟨hkeep, hnone⟩ := cls.refers handler hhandler attr hpoints ref store copied
    refine ⟨?_, fun _ _ => hpoints⟩
    split
    · rename_i bytes hdata
      exact absurd hdata (hnone bytes)
    · exact hkeep
    · trivial
  · have hdata : copied.data = none := by
      cases hdata : copied.data with
      | none => rfl
      | some data =>
          cases data with
          | heap bytes => exact absurd hdata (hheap bytes)
          | live read => exact absurd (hlive read hdata) hpoints
    have ⟨hkeep, hnone⟩ := cls.allocates handler hhandler attr hpoints ref store copied hdata hfree
    refine ⟨?_, fun read hread => absurd hread (hnone read)⟩
    split
    · exact hkeep
    · rename_i read hread
      exact absurd hread (hnone read)
    · trivial

/-- What the handler leaves of an emptied entry. -/
def handled (get : TableGet ω) (ref : MeRef) (entry : TblCopyEntry ω) : OmciError × TblCopied ω :=
  get.handler.run ref get.attr get.store ⟨entry.data, entry.dataSize, true⟩

/-- The copies after a GET of a table. -/
def copiesAfter (granted : Bool) (key : TblKey) (placed : TblCopies ω) (i : Fin omciTableCopyNum)
    (run : OmciError × TblCopied ω) : TblCopies ω :=
  let copies := placed.set i { placed.array i with toTblCopied := run.2 }
  if run.1 = .success then
    let removed := copies.timeoutEventRemove (copies.array i).timeoutId
    (removed.timeoutEventAdd granted i key).getD removed
  else copies

theorem copied_eq {get : TableGet ω} {ref : MeRef} {key : TblKey} {placed : TblCopies ω}
    {i : Fin omciTableCopyNum} (hget : state.copies.meTblCopyEmptyGet key = some (placed, i)) :
    (get.copied ref key state.copies).isSome = true ↔
      (handled get ref (placed.array i)).1 = .success := by
  rw [TableGet.copied, hget, handled]
  dsimp only
  split
  · rename_i hrun
    simp [hrun]
  · rename_i hfail
    refine iff_of_false Bool.false_ne_true fun hsuccess => ?_
    exact hfail _ (Prod.ext hsuccess rfl)

theorem copies_getTable {cls : TblClass ω} {ref : MeRef} {env : GetEnv ω} {get : TableGet ω}
    {key : TblKey} {placed : TblCopies ω} {i : Fin omciTableCopyNum}
    (hhandler : cls.tblCopy = some get.handler)
    (hget : state.copies.meTblCopyEmptyGet key = some (placed, i))
    (hset : (placed.set i { placed.array i with
      toTblCopied := (handled get ref (placed.array i)).2 }).Kept points) (rsp : OmciMsg) :
    (getTable cls ref key get.attr env ⟨get.store, state.copies⟩ rsp).state.copies =
      copiesAfter env.timeoutEventAdd key placed i (handled get ref (placed.array i)) := by
  rw [getTable, hhandler]
  dsimp only
  rw [hget]
  rw [handled] at hset ⊢
  dsimp only
  generalize get.handler.run ref get.attr get.store _ = run at hset ⊢
  obtain ⟨err, copied⟩ := run
  rw [copiesAfter, TblCopies.array_set_self]
  cases err with
  | success =>
      have hremove : (if (placed.array i).timeoutId = 0 then
            placed.set i { placed.array i with toTblCopied := copied }
          else (placed.set i { placed.array i with toTblCopied := copied }).timeoutEventRemove
            (placed.array i).timeoutId) =
          (placed.set i { placed.array i with toTblCopied := copied }).timeoutEventRemove
            (placed.array i).timeoutId := by
        split
        · rename_i hzero
          rw [hzero, hset.timeoutEventRemove_zero]
        · rfl
      dsimp only
      rw [hremove, if_pos rfl]
      split
      · rename_i hnone
        rw [hnone]
        rfl
      · rename_i hsome
        rw [hsome]
        rfl
  | _ => rfl

/-- A GET of a table. -/
theorem kept_getTable (h : state.copies.Kept points) {cls : OwnedClass points ω} {ref : MeRef}
    {instanceId : InstanceId} {env : GetEnv ω} {get : TableGet ω}
    (hhandler : cls.tblCopy = some get.handler) (rsp : OmciMsg) :
    let key := get.key cls.toTblClass instanceId
    let after := (getTable cls.toTblClass ref key get.attr env ⟨get.store, state.copies⟩ rsp).state
    after.copies.Kept points ∧ (state.copies.Armed → (after.copies.Armed ↔
      if (get.copied ref key state.copies).isSome then env.timeoutEventAdd = true
      else ∃ i, (state.copies.array i).toTblKey = key ∧ (state.copies.array i).valid = true)) := by
  intro key after
  have hattr : key.attr ≠ 0 := Nat.succ_ne_zero _
  have ⟨placed, i, hget, hplaced⟩ := h.emptied hattr
  have hlive : ∀ read, (placed.array i).data = some (.live read) → points cls.classId get.attr := by
    intro read hdata
    have ⟨attr, hnumber, hpoints⟩ := hplaced.kept.pointed i read hdata
    rw [hplaced.entryKey] at hnumber hpoints
    have hsame : attr = get.attr := Fin.ext (Nat.succ.inj hnumber.symm)
    rw [← hsame]
    exact hpoints
  have hleft : (handled get ref (placed.array i)).2.Owned ∧
      ∀ read, (handled get ref (placed.array i)).2.data = some (.live read) →
        points cls.classId get.attr :=
    @OwnedClass.owned _ _ cls get.handler hhandler get.attr
      ⟨(placed.array i).data, (placed.array i).dataSize, true⟩ hplaced.noHeap hlive rfl ref get.store
  -- the entry with what the handler has left
  have hset : (placed.set i { placed.array i with
      toTblCopied := (handled get ref (placed.array i)).2 }).Kept points := by
    apply hplaced.kept.set
    · exact hplaced.kept.consistent.set_copied (by rw [hplaced.entryKey]; exact hattr) rfl rfl
        hplaced.valid
    · exact hplaced.kept.attr i
    · exact hleft.1
    · intro read hdata
      exact ⟨get.attr, congrArg TblKey.attr hplaced.entryKey,
        (congrArg (fun k => points k.classId get.attr) hplaced.entryKey).mpr (hleft.2 read hdata)⟩
    · exact fun hfree => absurd (hplaced.valid.symm.trans hfree) nofun
  have hself := @TblCopies.array_set_self _ placed i { placed.array i with
    toTblCopied := (handled get ref (placed.array i)).2 }
  have hentry : ∀ j, ((placed.set i { placed.array i with
        toTblCopied := (handled get ref (placed.array i)).2 }).array j).toTblKey =
          (placed.array j).toTblKey ∧
      ((placed.set i { placed.array i with
        toTblCopied := (handled get ref (placed.array i)).2 }).array j).valid =
          (placed.array j).valid := by
    intro j
    by_cases hj : j = i
    · rw [hj, hself]
      exact ⟨rfl, rfl⟩
    · rw [TblCopies.array_set_of_ne _ hj]
      exact ⟨rfl, rfl⟩
  have hafter : after.copies = _ := copies_getTable hhandler hget hset rsp
  rw [hafter, copiesAfter]
  simp only [copied_eq hget]
  by_cases hsuccess : (handled get ref (placed.array i)).1 = .success
  · have ⟨hkept, harmed⟩ := hset.rearm hattr ((hentry i).1.trans hplaced.entryKey)
      ((hentry i).2.trans hplaced.valid) env.timeoutEventAdd
    rw [if_pos hsuccess, if_pos hsuccess]
    refine ⟨hkept, fun hbefore => harmed fun j hj hvalid => ?_⟩
    have ⟨timeout, hmem, hkey, hid⟩ := hplaced.others hbefore j hj ((hentry j).2.symm.trans hvalid)
    rw [hself]
    exact ⟨timeout, hmem, hkey.trans (hentry j).1.symm, hid⟩
  · rw [if_neg hsuccess, if_neg hsuccess]
    refine ⟨hset, fun hbefore => (?_ : _ ↔ _).trans (hplaced.armed hbefore)⟩
    constructor
    · intro harmed
      have ⟨timeout, hmem, hkey⟩ := harmed i ((hentry i).2.trans hplaced.valid)
      exact ⟨timeout, hmem, hkey.trans ((hentry i).1.trans hplaced.entryKey)⟩
    · rintro ⟨timeout, hmem, hkey⟩ j hvalid
      by_cases hj : j = i
      · exact ⟨timeout, hmem, hkey.trans (hj ▸ ((hentry i).1.trans hplaced.entryKey).symm)⟩
      · have ⟨other, hother, hotherKey, _⟩ :=
          hplaced.others hbefore j hj ((hentry j).2.symm.trans hvalid)
        exact ⟨other, hother, hotherKey.trans (hentry j).1.symm⟩

/-- A GET_NEXT. -/
theorem kept_getNext (h : state.copies.Kept points) (classId : ClassId) (instanceId : InstanceId)
    (env : GetEnv ω) (msg : OmciMsg) :
    let after := (getNextActionHandle classId instanceId env state msg (rspCreate msg)).state
    after.copies.Kept points ∧ (state.copies.Armed → (after.copies.Armed ↔
      @TimerGuard _ points state (.getNext classId instanceId env msg))) := by
  intro after
  have hafter : after = (getNextActionHandle classId instanceId env state msg (rspCreate msg)).state :=
    rfl
  have hrefused : after = state → (∀ attr i, getNextAttr (msg.field16 0) = some attr →
      state.copies.meTblCopyFind ⟨classId, instanceId, attr.val + 1⟩ = some i →
      ¬ getNextRspValuesSize * (msg.field16 2).toNat < (state.copies.array i).dataSize) →
      after.copies.Kept points ∧ (state.copies.Armed → (after.copies.Armed ↔
        @TimerGuard _ points state (.getNext classId instanceId env msg))) := by
    intro hsame hnone
    rw [hsame]
    exact ⟨h, fun harmed => iff_of_true harmed fun attr i hattr hfind hlt =>
      absurd hlt (hnone attr i hattr hfind)⟩
  rw [getNextActionHandle] at hafter
  dsimp only at hafter
  cases hattr : getNextAttr (msg.field16 0) with
  | none =>
      rw [hattr] at hafter
      exact hrefused hafter fun attr i hsome => absurd (hattr.symm.trans hsome) (fun h => by cases h)
  | some attr =>
      rw [hattr] at hafter
      dsimp only at hafter
      cases hfind : state.copies.meTblCopyFind ⟨classId, instanceId, attr.val + 1⟩ with
      | none =>
          rw [hfind] at hafter
          refine hrefused hafter fun other i hsome hfound => ?_
          cases hattr.symm.trans hsome
          exact absurd (hfind.symm.trans hfound) (fun h => by cases h)
      | some i =>
          rw [hfind] at hafter
          dsimp only at hafter
          by_cases hlt : getNextRspValuesSize * (msg.field16 2).toNat <
              (state.copies.array i).dataSize
          · obtain ⟨hkey, hvalid⟩ := TblCopies.meTblCopyFind_eq_some hfind
            obtain ⟨hkept, harmed⟩ := h.rearm (Nat.succ_ne_zero attr.val) hkey hvalid
              env.timeoutEventAdd
            rw [getNextChunk_of_lt hlt] at hafter
            have hcopies : after.copies =
                ((state.copies.timeoutEventRemove (state.copies.array i).timeoutId).timeoutEventAdd
                  env.timeoutEventAdd i ⟨classId, instanceId, attr.val + 1⟩).getD
                (state.copies.timeoutEventRemove (state.copies.array i).timeoutId) := by
              rw [hafter]
              dsimp only
              split
              · rename_i hnone
                rw [hnone]
                rfl
              · rename_i hsome
                rw [hsome]
                rfl
            rw [hcopies]
            refine ⟨hkept, fun hbefore => (harmed (h.armed_else hbefore i)).trans ?_⟩
            constructor
            · exact fun hgranted _ _ _ _ _ => hgranted
            · exact fun hguard => hguard attr i hattr hfind hlt
          · rw [getNextChunk_of_le (Nat.not_lt.mp hlt)] at hafter
            refine hrefused hafter fun other j hsome hfound => ?_
            cases hattr.symm.trans hsome
            cases hfind.symm.trans hfound
            exact hlt

/-- One step keeps what holds in every run, and every entry in use has its timer afterwards exactly
under the guard. -/
theorem kept_cacheStep (h : state.copies.Kept points) {event : CacheEvent points ω}
    {after : GetState ω} (hstep : cacheStep state event = some after) :
    after.copies.Kept points ∧
      (state.copies.Armed → (after.copies.Armed ↔ TimerGuard state event)) := by
  cases event with
  | get cls ref instanceId env msg =>
      have hafter := (Option.some.inj hstep).symm
      rw [TimerGuard]
      cases hget : tableGet cls.toTblClass ref env state.store msg with
      | none =>
          have hcopies := getActionHandle_copies hget instanceId (rspCreate msg)
          rw [hafter, hcopies]
          exact ⟨h, fun harmed => iff_of_true harmed nofun⟩
      | some get =>
          have ⟨hhandler, rsp, hresult⟩ := getActionHandle_table hget instanceId (rspCreate msg)
          have ⟨hkept, harmed⟩ := @kept_getTable _ _ _ h cls ref instanceId env get hhandler rsp
          rw [hafter, hresult]
          refine ⟨hkept, fun hbefore => (harmed hbefore).trans ?_⟩
          simp
  | getNext classId instanceId env msg =>
      rw [← Option.some.inj hstep]
      exact kept_getNext h classId instanceId env msg
  | timeout timeoutId =>
      have ⟨copies, htimeout, hafter⟩ := Option.map_eq_some_iff.mp hstep
      have ⟨hkept, harmed⟩ := h.timeout htimeout
      rw [← hafter]
      exact ⟨hkept, fun hbefore => iff_of_true (harmed hbefore) trivial⟩
  | store store =>
      rw [← Option.some.inj hstep]
      exact ⟨h, fun harmed => iff_of_true harmed trivial⟩

/-- In every run the entries are as they should be after each step exactly if every step meets the
guard. -/
theorem slotsRight_along_iff (store : Store ω) (events : List (CacheEvent points ω)) :
    Along cacheStep (fun _ _ after => after.copies.SlotsRight) ⟨store, tblCopyInit⟩ events ↔
      Along cacheStep (fun before event _ => TimerGuard before event) ⟨store, tblCopyInit⟩
        events := by
  apply @along_iff_guard _ _ cacheStep (fun state => state.copies.Kept points ∧ state.copies.Armed)
  · intro before event after hbefore hstep
    have ⟨hkept, harmed⟩ := kept_cacheStep hbefore.1 hstep
    have hiff := harmed hbefore.2
    exact ⟨(TblCopies.slotsRight_iff hkept).trans hiff, fun hguard => ⟨hkept, hiff.mpr hguard⟩⟩
  · exact ⟨TblCopies.Kept.init, fun _ hvalid => absurd hvalid Bool.false_ne_true⟩

/-- In every run the cache is kept, whatever is read and whichever timers expire or cannot be
started. -/
theorem tblCopies_kept (store : Store ω) (events : List (CacheEvent points ω)) :
    Along cacheStep (fun _ _ after => after.copies.Kept points) ⟨store, tblCopyInit⟩ events := by
  refine @Along.of_invariant _ _ _ (fun state => state.copies.Kept points) _ _ ?_
    TblCopies.Kept.init events
  intro before event after hbefore hstep
  have hafter := (kept_cacheStep hbefore hstep).1
  exact ⟨hafter, hafter⟩

end Runs

/-! ## A table that cannot be copied -/

def ownedMcOps : OwnedClass (fun _ _ => False) (MeRef → McOpsTables) where
  toTblClass := meMulticastOperationsProfileClass
  allocates := by
    intro handler hhandler attr _ ref store copied hdata hfree
    obtain rfl : mcOpsTblCopy = handler := Option.some.inj hhandler
    unfold mcOpsTblCopy
    dsimp only
    cases (store.outer ref).table attr with
    | ok bytes =>
        refine ⟨hfree, fun read hread => ?_⟩
        cases bytes <;> cases hread
    | error err =>
        refine ⟨hfree, fun read hread => ?_⟩
        cases hdata.symm.trans hread
  refers := fun _ _ _ hpoints => absurd hpoints id

/-- A GET of the lost groups, which the multicast daemon does not provide, leaves an entry in use
without a timer. -/
theorem slotsRight_not :
    ¬ Along cacheStep (fun _ _ after => after.copies.SlotsRight) ⟨mcOpsStore, tblCopyInit⟩
      [.get ownedMcOps 1 1 ⟨fun _ store => (store, .success), true⟩ (mcOpsRequest 8 0)] := by
  intro hrun
  have hright := hrun.1
  have hvalid : ((getActionHandle meMulticastOperationsProfileClass 1 1
      ⟨fun _ store => (store, .success), true⟩ ⟨mcOpsStore, tblCopyInit⟩ (mcOpsRequest 8 0)
      (rspCreate (mcOpsRequest 8 0))).state.copies.array TblCopies.firstEntry).valid = true := by
    decide
  have ⟨timeout, ⟨hmem, _⟩, _⟩ := hright.timer TblCopies.firstEntry hvalid
  exact List.not_mem_nil hmem

end FalconGpon.Omci
