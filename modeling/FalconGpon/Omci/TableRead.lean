/-
# Reading out tables

A GET of a table attribute announces a size and makes a copy; the GET_NEXT requests that
follow return it piece by piece (`TblAnswer`).

`tblAnswer_of_guard`: in every run of table reads, timers and changes of the store that meets
`TblGuard` all requests are answered that way. The guard leaves out changes of memory that
a copy points to instead of holding it, copies that keep their place in the cache without
having been announced, and tables that sequence numbers of 16 bits cannot address.
-/

import FalconGpon.Lib.Transition
import FalconGpon.Omci.TableCopy

namespace FalconGpon.Omci

open FalconGpon.Lib

variable {ω : Type}

/-! ## Announcing a table -/

theorem octets32_append (field : BitVec 32) :
    field.extractLsb' 24 8 ++ field.extractLsb' 16 8 ++ field.extractLsb' 8 8 ++
      field.extractLsb' 0 8 = field := by
  ext i hi
  simp only [BitVec.getElem_append, BitVec.getElem_extractLsb']
  grind

theorem getTblRsp_fields (rsp : OmciMsg) (attr : Attr) {dataSize : Nat}
    (hsize : dataSize < 2 ^ 32) : (getTblRsp rsp attr dataSize).result = mrCmdSuccess ∧
      (getTblRsp rsp attr dataSize).field16 1 = omciAttr2mask attr ∧
      ((getTblRsp rsp attr dataSize).field32 3).toNat = dataSize := by
  have hmask : (getTblRsp rsp attr dataSize).field16 1 = omciAttr2mask attr := by
    rw [← octets16_append (omciAttr2mask attr)]
    simp [OmciMsg.field16, getTblRsp, OmciMsg.withResult, patch, octets16, octets32]
  have hfield : (getTblRsp rsp attr dataSize).field32 3 = BitVec.ofNat 32 dataSize := by
    rw [← octets32_append (BitVec.ofNat 32 dataSize)]
    simp [OmciMsg.field32, getTblRsp, OmciMsg.withResult, patch, octets16, octets32]
  refine ⟨OmciMsg.result_withResult _ _, hmask, ?_⟩
  rw [hfield, BitVec.toNat_ofNat, Nat.mod_eq_of_lt hsize]

/-! ## Runs -/

/-- A table that is being read out: what was announced, and its idle timer. -/
structure TblRead where
  key : TblKey
  bytes : List Byte
  timeoutId : Nat

/-- The tables and their copies, with the tables that are being read out. -/
structure TblRun (ω : Type) where
  state : GetState ω
  reads : List TblRead

/-- What can happen. -/
inductive TblEvent (ω : Type)
  /-- A GET of any attributes, tables or not. -/
  | get (cls : TblClass ω) (ref : MeRef) (instanceId : InstanceId) (env : GetEnv ω)
      (msg : OmciMsg)
  | getNext (classId : ClassId) (instanceId : InstanceId) (env : GetEnv ω) (msg : OmciMsg)
  | timeout (timeoutId : Nat)
  /-- A SET, or anything else, changes the store. -/
  | store (store : Store ω)

namespace TblRun

/-- The reads that go on when a copy has to make place: one ends only if there are as many as
the cache has entries. -/
def keptReads (run : TblRun ω) (key : TblKey) : List TblRead :=
  if omciTableCopyNum ≤ run.reads.length then
    run.reads.filter fun read => run.state.copies.evicts key != some read.key
  else run.reads

/-- A GET replaces what it reads. -/
def getReads (run : TblRun ω) (key : TblKey) (copied : Option (List Byte)) : List TblRead :=
  let kept := run.keptReads key
  match copied with
  | some bytes =>
      ⟨key, bytes, run.state.copies.lastTimeoutId + 1⟩ :: kept.filter fun read => read.key != key
  | none => kept

def getNextReads (run : TblRun ω) (key : TblKey) : List TblRead :=
  run.reads.map fun read =>
    if read.key = key then { read with timeoutId := run.state.copies.lastTimeoutId + 1 } else read

end TblRun

/-- One step. -/
def tblStep (run : TblRun ω) : TblEvent ω → Option (TblRun ω)
  | .get cls ref instanceId env msg =>
      let result := getActionHandle cls ref instanceId env run.state msg (rspCreate msg)
      match tableGet cls ref env run.state.store msg with
      | some get =>
          let key := get.key cls instanceId
          let copied := get.copied ref key run.state.copies
          some ⟨result.state, run.getReads key (copied.map (·.shown get.store.outer))⟩
      | none => some { run with state := result.state }
  | .getNext classId instanceId env msg =>
      let result := getNextActionHandle classId instanceId env run.state msg (rspCreate msg)
      match getNextAttr (msg.field16 0), result.error with
      | some attr, .success =>
          some ⟨result.state, run.getNextReads ⟨classId, instanceId, attr.val + 1⟩⟩
      | _, _ => some { run with state := result.state }
  | .timeout timeoutId =>
      match run.state.copies.timeout timeoutId with
      | some copies =>
          some ⟨{ run.state with copies := copies },
            run.reads.filter fun read => read.timeoutId != timeoutId⟩
      | none => none
  | .store store => some { run with state := { run.state with store := store } }

/-- The answer to a request is as the reads in progress want it. -/
def TblAnswer (run : TblRun ω) : TblEvent ω → Prop
  | .get cls ref instanceId env msg =>
      let result := getActionHandle cls ref instanceId env run.state msg (rspCreate msg)
      ∀ get ∈ tableGet cls ref env run.state.store msg,
        ∀ copied ∈ get.copied ref (get.key cls instanceId) run.state.copies,
          result.error = .success ∧ result.rsp.result = mrCmdSuccess ∧
            result.rsp.field16 1 = omciAttr2mask get.attr ∧
            (result.rsp.field32 3).toNat = (copied.shown get.store.outer).length
  | .getNext classId instanceId env msg =>
      let result := getNextActionHandle classId instanceId env run.state msg (rspCreate msg)
      let seqNum := (msg.field16 2).toNat
      ∀ attr ∈ getNextAttr (msg.field16 0), ∀ read ∈ run.reads,
        read.key = ⟨classId, instanceId, attr.val + 1⟩ →
          if seqNum < tblChunks read.bytes then
            result.error = .success ∧ result.rsp.result = mrCmdSuccess ∧
              slice result.rsp.octet 3 getNextRspValuesSize = tblChunk read.bytes seqNum
          else result.error = .action ∧ result.rsp.result = mrParamError
  | .timeout _ | .store _ => True

/-- The reads whose copies point to memory of the class see it unchanged. -/
def TblRun.Undisturbed (run : TblRun ω) (outer : ω) : Prop :=
  ∀ read ∈ run.reads, ∀ i, (run.state.copies.array i).toTblKey = read.key →
    (run.state.copies.array i).toTblCopied.shown outer =
      (run.state.copies.array i).toTblCopied.shown run.state.store.outer

/-- The condition on a step: memory that a copy points to is not changed, a copy makes place
only if all entries are being read out, a GET of a table that is being read out provides a copy,
timers are available, and sequence numbers reach the end of the table. -/
def TblGuard (run : TblRun ω) : TblEvent ω → Prop
  | .get cls ref instanceId env msg =>
      run.Undisturbed
        (getActionHandle cls ref instanceId env run.state msg (rspCreate msg)).state.store.outer ∧
      ∀ get ∈ tableGet cls ref env run.state.store msg,
        let key := get.key cls instanceId
        (run.state.copies.evicts key ≠ none → omciTableCopyNum ≤ run.reads.length) ∧
        match get.copied ref key run.state.copies with
        | some copied =>
            env.timeoutEventAdd = true ∧ copied.dataSize ≤ getNextRspValuesSize * 2 ^ 16
        | none => ∀ read ∈ run.reads, read.key ≠ key
  | .getNext _ _ env _ => env.timeoutEventAdd = true
  | .timeout _ => True
  | .store store => run.Undisturbed store.outer

/-- An entry holds what was announced to a read. -/
structure TblRead.Held (read : TblRead) (state : GetState ω) (i : Fin omciTableCopyNum) :
    Prop where
  attr : read.key.attr ≠ 0
  size : read.bytes.length ≤ getNextRspValuesSize * 2 ^ 16
  entryKey : (state.copies.array i).toTblKey = read.key
  valid : (state.copies.array i).valid = true
  timeoutId : (state.copies.array i).timeoutId = read.timeoutId
  shown : (state.copies.array i).toTblCopied.shown state.store.outer = read.bytes

theorem TblRead.Held.of_entry {read : TblRead} {state : GetState ω} {i : Fin omciTableCopyNum}
    (h : read.Held state i) {copies : TblCopies ω}
    (hentry : copies.array i = state.copies.array i) : read.Held ⟨state.store, copies⟩ i where
  attr := h.attr
  size := h.size
  entryKey := (congrArg (·.toTblKey) hentry).trans h.entryKey
  valid := (congrArg (·.valid) hentry).trans h.valid
  timeoutId := (congrArg (·.timeoutId) hentry).trans h.timeoutId
  shown := (congrArg (·.toTblCopied.shown state.store.outer) hentry).trans h.shown

/-- All reads in progress have their copies. -/
structure TblReading (run : TblRun ω) : Prop where
  consistent : run.state.copies.Consistent
  held : ∀ read ∈ run.reads, ∃ i, read.Held run.state i

namespace TblReading

variable {run : TblRun ω}

theorem undisturbed (h : TblReading run) {store : Store ω}
    (hundisturbed : run.Undisturbed store.outer) :
    TblReading { run with state := ⟨store, run.state.copies⟩ } where
  consistent := h.consistent
  held read hread := by
    obtain ⟨i, hheld⟩ := h.held read hread
    exact ⟨i, hheld.attr, hheld.size, hheld.entryKey, hheld.valid, hheld.timeoutId,
      (hundisturbed read hread i hheld.entryKey).trans hheld.shown⟩

/-- An entry that no read in progress uses is given to an attribute. -/
theorem placed (h : TblReading run) {store : Store ω} {key : TblKey} {after : TblCopies ω}
    {i : Fin omciTableCopyNum} (hundisturbed : run.Undisturbed store.outer)
    (hafter : after.Consistent) (hplaced : run.state.copies.Placed key after i)
    {reads : List TblRead} (hreads : ∀ read ∈ reads, read ∈ run.reads ∧ read.key ≠ key ∧
      run.state.copies.evicts key ≠ some read.key) : TblReading ⟨⟨store, after⟩, reads⟩ where
  consistent := hafter
  held read hread := by
    obtain ⟨hmem, hkey, hevicts⟩ := hreads read hread
    obtain ⟨j, hheld⟩ := (h.undisturbed hundisturbed).held read hmem
    have hji : j ≠ i := by
      rintro rfl
      rcases hplaced.lost hheld.valid with hsame | hlost
      · exact hkey (hheld.entryKey.symm.trans hsame)
      · exact hevicts (hlost.trans (congrArg some hheld.entryKey))
    exact ⟨j, hheld.of_entry (hplaced.other j hji)⟩

theorem cons {state : GetState ω} {reads : List TblRead} (h : TblReading ⟨state, reads⟩)
    {read : TblRead} {i : Fin omciTableCopyNum} (hheld : read.Held state i) :
    TblReading ⟨state, read :: reads⟩ where
  consistent := h.consistent
  held other hother := by
    rcases List.mem_cons.mp hother with rfl | hmem
    · exact ⟨i, hheld⟩
    · exact h.held other hmem

/-- The reads that go on keep their copies, if copies make place only to as many reads as the
cache has entries. -/
theorem mem_keptReads {key : TblKey} {read : TblRead}
    (hevicts : run.state.copies.evicts key ≠ none → omciTableCopyNum ≤ run.reads.length)
    (hread : read ∈ run.keptReads key) :
    read ∈ run.reads ∧ run.state.copies.evicts key ≠ some read.key := by
  rw [TblRun.keptReads] at hread
  split at hread
  · obtain ⟨hmem, hother⟩ := List.mem_filter.mp hread
    exact ⟨hmem, bne_iff_ne.mp hother⟩
  · rename_i hfew
    refine ⟨hread, fun hsome => hfew (hevicts ?_)⟩
    rw [hsome]
    exact nofun

/-- A GET keeps the copies of the reads in progress. -/
theorem get (h : TblReading run) {cls : TblClass ω} {ref : MeRef} {instanceId : InstanceId}
    {env : GetEnv ω} {msg : OmciMsg} (hguard : TblGuard run (.get cls ref instanceId env msg))
    {run' : TblRun ω} (hstep : tblStep run (.get cls ref instanceId env msg) = some run') :
    TblReading run' := by
  obtain ⟨hundisturbed, htable⟩ := hguard
  rw [tblStep] at hstep
  dsimp only at hstep
  cases hget : tableGet cls ref env run.state.store msg with
  | none =>
      rw [hget] at hstep
      obtain rfl := Option.some.inj hstep
      have hcopies := getActionHandle_copies hget instanceId (rspCreate msg)
      have hkept := h.undisturbed hundisturbed
      rw [← hcopies] at hkept
      exact hkept
  | some get =>
      rw [hget] at hstep htable
      obtain rfl := Option.some.inj hstep
      obtain ⟨hevicts, hcopied⟩ := htable get rfl
      obtain ⟨hhandler, rsp', hresult⟩ := getActionHandle_table hget instanceId (rspCreate msg)
      have hattr : (get.key cls instanceId).attr ≠ 0 := Nat.succ_ne_zero _
      rw [hresult] at hundisturbed ⊢
      cases hprovided : get.copied ref (get.key cls instanceId) run.state.copies with
      | some copied =>
          rw [hprovided] at hcopied
          obtain ⟨after, i, htable, hafter, hplaced, hentry, hid⟩ :=
            getTable_copied h.consistent hattr hhandler hcopied.1 hprovided rsp'
          rw [TableGet.key] at htable
          rw [htable] at hundisturbed ⊢
          apply TblReading.cons
          · apply h.placed hundisturbed hafter hplaced
            intro read hread
            obtain ⟨hkept, hkey⟩ := List.mem_filter.mp hread
            obtain ⟨hmem, hlost⟩ := mem_keptReads hevicts hkept
            exact ⟨hmem, bne_iff_ne.mp hkey, hlost⟩
          · have hsize : (copied.shown get.store.outer).length ≤ getNextRspValuesSize * 2 ^ 16 := by
              rw [TblCopied.length_shown]
              exact hcopied.2
            exact ⟨hattr, hsize, hplaced.entryKey, hplaced.valid, hid, by rw [hentry]⟩
      | none =>
          rw [hprovided] at hcopied
          obtain ⟨after, i, htable, hafter, hplaced⟩ :=
            getTable_failed h.consistent hattr hhandler hprovided rsp'
          rw [TableGet.key] at htable
          rw [htable] at hundisturbed ⊢
          apply h.placed hundisturbed hafter hplaced
          intro read hread
          obtain ⟨hmem, hlost⟩ := mem_keptReads hevicts hread
          exact ⟨hmem, hcopied read hmem, hlost⟩

theorem asked (h : TblReading run) {classId : ClassId} {instanceId : InstanceId} {msg : OmciMsg}
    {attr : Attr} (hattr : getNextAttr (msg.field16 0) = some attr) {read : TblRead}
    (hread : read ∈ run.reads) (hkey : read.key = ⟨classId, instanceId, attr.val + 1⟩) :
    ∃ i, Asked run.state classId instanceId msg attr i ∧ read.Held run.state i := by
  obtain ⟨i, hheld⟩ := h.held read hread
  exact ⟨i, ⟨h.consistent, hattr, hheld.entryKey.trans hkey, hheld.valid⟩, hheld⟩

/-- A GET_NEXT keeps the copies of the reads in progress. -/
theorem getNext (h : TblReading run) {classId : ClassId} {instanceId : InstanceId}
    {env : GetEnv ω} {msg : OmciMsg} (hgranted : env.timeoutEventAdd = true)
    {run' : TblRun ω} (hstep : tblStep run (.getNext classId instanceId env msg) = some run') :
    TblReading run' := by
  rw [tblStep] at hstep
  cases hattr : getNextAttr (msg.field16 0) with
  | none =>
      have hrefused : (getNextActionHandle classId instanceId env run.state msg
          (rspCreate msg)).state = run.state := by
        rw [getNextActionHandle]
        dsimp only
        rw [hattr]
      rw [hattr, hrefused] at hstep
      obtain rfl := Option.some.inj hstep
      exact h
  | some attr =>
      rw [hattr] at hstep
      cases hfind : run.state.copies.meTblCopyFind ⟨classId, instanceId, attr.val + 1⟩ with
      | none =>
          have hrefused : getNextActionHandle classId instanceId env run.state msg
              (rspCreate msg) = ⟨run.state, .action, ((rspCreate msg).write 1
                (octets16 (msg.field16 0))).withResult mrParamError⟩ := by
            rw [getNextActionHandle]
            dsimp only
            rw [hattr]
            dsimp only
            rw [hfind]
          rw [hrefused] at hstep
          obtain rfl := Option.some.inj hstep
          exact h
      | some i =>
          obtain ⟨hkey, hvalid⟩ := TblCopies.meTblCopyFind_eq_some hfind
          have hasked : Asked run.state classId instanceId msg attr i :=
            ⟨h.consistent, hattr, hkey, hvalid⟩
          rcases Nat.lt_or_ge (getNextRspValuesSize * (msg.field16 2).toNat)
            (run.state.copies.array i).dataSize with hlt | hle
          · obtain ⟨armed, rsp, hresult, -, -, harmed, hself, hother⟩ :=
              getNextActionHandle_of_lt hasked hgranted hlt
            rw [hresult] at hstep
            obtain rfl := Option.some.inj hstep
            refine ⟨harmed, fun read hread => ?_⟩
            obtain ⟨old, hold, rfl⟩ := List.mem_map.mp hread
            obtain ⟨j, hheld⟩ := h.held old hold
            by_cases hsame : old.key = ⟨classId, instanceId, attr.val + 1⟩
            · -- its timer is the new one
              have hji : j = i :=
                h.consistent.unique j i (hheld.entryKey.trans (hsame.trans hkey.symm))
                  (by rw [hheld.entryKey]; exact hheld.attr)
              subst hji
              rw [if_pos hsame]
              refine ⟨j, hheld.attr, hheld.size, ?_, ?_, ?_, ?_⟩
              · exact (congrArg (·.toTblKey) hself).trans hheld.entryKey
              · exact (congrArg (·.valid) hself).trans hheld.valid
              · exact congrArg (·.timeoutId) hself
              · exact (congrArg (·.toTblCopied.shown run.state.store.outer) hself).trans hheld.shown
            · have hji : j ≠ i := by
                rintro rfl
                exact hsame (hheld.entryKey.symm.trans hkey)
              rw [if_neg hsame]
              exact ⟨j, hheld.of_entry (hother j hji)⟩
          · rw [getNextActionHandle_of_le hasked hle] at hstep
            obtain rfl := Option.some.inj hstep
            exact h

/-- A timer ends the read that started it last, and no other. -/
theorem timeout (h : TblReading run) {timeoutId : Nat} {run' : TblRun ω}
    (hstep : tblStep run (.timeout timeoutId) = some run') : TblReading run' := by
  rw [tblStep, TblCopies.timeout] at hstep
  cases hfind : run.state.copies.timeouts.find? fun timeout => timeout.1 = timeoutId with
  | none =>
      rw [hfind] at hstep
      exact absurd hstep nofun
  | some timeout =>
      obtain ⟨id, key⟩ := timeout
      rw [hfind] at hstep
      obtain rfl := Option.some.inj hstep
      have hid : id = timeoutId := by simpa using List.find?_some hfind
      subst hid
      obtain ⟨_, hattr, i, hkey, hentryId, hvalid⟩ :=
        h.consistent.owner (id, key) (List.mem_of_find?_eq_some hfind)
      have hclean : run.state.copies.clean key = run.state.copies.set i
          { run.state.copies.array i with
            data := if (run.state.copies.array i).freeData then none
              else (run.state.copies.array i).data
            valid := false
            timeoutId := 0 } := by
        rw [TblCopies.clean, h.consistent.meTblCopyFind_eq hattr hkey, if_pos hvalid]
      have hattr' : (run.state.copies.array i).attr ≠ 0 := by
        rw [hkey]
        exact hattr
      rw [hclean]
      refine ⟨?_, fun read hread => ?_⟩
      · -- the entry's only timer goes with the copy
        apply (h.consistent.timeoutEventRemove id).set
        · intro j hj
          exact (h.consistent.unique i j hj.symm hattr').symm
        · intro timeout hmem _ hsame _
          exact absurd (hsame.symm.trans hentryId) (TblCopies.mem_timeoutEventRemove.mp hmem).2
      · obtain ⟨hmem, hother⟩ := List.mem_filter.mp hread
        obtain ⟨j, hheld⟩ := h.held read hmem
        have hji : j ≠ i := by
          rintro rfl
          exact bne_iff_ne.mp hother (hheld.timeoutId.symm.trans hentryId)
        exact ⟨j, hheld.of_entry (TblCopies.array_set_of_ne _ hji)⟩

theorem step (h : TblReading run) {event : TblEvent ω} (hguard : TblGuard run event)
    {run' : TblRun ω} (hstep : tblStep run event = some run') : TblReading run' := by
  cases event with
  | get cls ref instanceId env msg => exact h.get hguard hstep
  | getNext classId instanceId env msg => exact h.getNext hguard hstep
  | timeout timeoutId => exact h.timeout hstep
  | store store =>
      obtain rfl := Option.some.inj hstep
      exact h.undisturbed hguard

/-- While the copies are there, all requests are answered right. -/
theorem answer (h : TblReading run) {event : TblEvent ω} (hguard : TblGuard run event) :
    TblAnswer run event := by
  cases event with
  | get cls ref instanceId env msg =>
      intro get hget copied hprovided
      obtain ⟨_, hcopied⟩ := hguard.2 get hget
      rw [show get.copied ref (get.key cls instanceId) run.state.copies = some copied from
        hprovided] at hcopied
      obtain ⟨hhandler, rsp', hresult⟩ := getActionHandle_table hget instanceId (rspCreate msg)
      obtain ⟨after, i, htable, -⟩ := getTable_copied h.consistent
        (Nat.succ_ne_zero get.attr.val) hhandler hcopied.1 hprovided rsp'
      rw [TableGet.key] at htable
      rw [hresult, htable, TblCopied.length_shown]
      exact ⟨rfl, getTblRsp_fields rsp' get.attr
        (Nat.lt_of_le_of_lt hcopied.2 (by decide))⟩
  | getNext classId instanceId env msg =>
      intro attr hattr read hread hkey
      obtain ⟨i, hasked, hheld⟩ := h.asked hattr hread hkey
      have hsize : (run.state.copies.array i).dataSize = read.bytes.length := by
        rw [← hheld.shown, TblCopied.length_shown]
      split
      · rename_i hlt
        rw [lt_tblChunks, ← hsize] at hlt
        obtain ⟨armed, rsp, hresult, hcode, hvalues, -⟩ :=
          getNextActionHandle_of_lt hasked hguard hlt
        rw [hresult]
        rw [hheld.shown] at hvalues
        exact ⟨rfl, hcode, hvalues⟩
      · rename_i hle
        rw [lt_tblChunks, ← hsize] at hle
        rw [getNextActionHandle_of_le hasked (Nat.not_lt.mp hle)]
        exact ⟨rfl, OmciMsg.result_withResult _ _⟩
  | timeout timeoutId => trivial
  | store store => trivial

end TblReading

def TblRun.start (store : Store ω) : TblRun ω := ⟨⟨store, tblCopyInit⟩, []⟩

theorem TblReading.start (store : Store ω) : TblReading (.start store) where
  consistent := TblCopies.consistent_tblCopyInit
  held _ hread := absurd hread List.not_mem_nil

theorem TblReading.of_reachOn {store : Store ω} {run : TblRun ω}
    (hreach : ReachOn tblStep TblGuard (.start store) run) : TblReading run :=
  hreach.invariant (.start store) fun _ _ _ h hguard hstep => h.step hguard hstep

/-- A GET_NEXT for one piece of a table, anywhere in a run while the table is being read
out. -/
structure PieceAsked (store : Store ω) (key : TblKey) (bytes : List Byte) (seqNum : Nat) where
  run : TblRun ω
  env : GetEnv ω
  msg : OmciMsg
  reach : ReachOn tblStep TblGuard (.start store) run
  reading : ∃ read ∈ run.reads, read.key = key ∧ read.bytes = bytes
  granted : env.timeoutEventAdd = true
  attr : ∃ attr, getNextAttr (msg.field16 0) = some attr ∧ key.attr = attr.val + 1
  seqNum_eq : (msg.field16 2).toNat = seqNum

/-- The values of the response. -/
def PieceAsked.payload {store : Store ω} {key : TblKey} {bytes : List Byte} {seqNum : Nat}
    (asked : PieceAsked store key bytes seqNum) : List Byte :=
  slice (getNextActionHandle key.classId key.instanceId asked.env asked.run.state asked.msg
    (rspCreate asked.msg)).rsp.octet 3 getNextRspValuesSize

theorem tblChunks_le {bytes : List Byte}
    (hsize : bytes.length ≤ getNextRspValuesSize * 2 ^ 16) : tblChunks bytes ≤ 2 ^ 16 := by
  simp only [tblChunks, getNextRspValuesSize] at hsize ⊢
  omega

/-- In every run that meets the condition, GETs of tables announce the size of what they copy,
GET_NEXTs return its pieces and refuse all other sequence numbers; and the pieces of a table,
asked for anywhere in such runs while it is being read out, make it up again. -/
theorem tblAnswer_of_guard (store : Store ω) : (∀ run, ReachOn tblStep TblGuard (.start store) run →
      (∀ event, TblGuard run event → TblAnswer run event) ∧
        ∀ read ∈ run.reads, tblChunks read.bytes ≤ 2 ^ 16) ∧
    ∀ (key : TblKey) (bytes : List Byte)
      (asked : ∀ seqNum : Fin (tblChunks bytes), PieceAsked store key bytes seqNum),
      ((List.finRange (tblChunks bytes)).flatMap fun seqNum => (asked seqNum).payload).take
        bytes.length = bytes := by
  refine ⟨fun run hreach => ⟨fun event hguard => ?_, fun read hread => ?_⟩,
    fun key bytes asked => ?_⟩
  · exact (TblReading.of_reachOn hreach).answer hguard
  · obtain ⟨i, hheld⟩ := (TblReading.of_reachOn hreach).held read hread
    exact tblChunks_le hheld.size
  · have hpayload : ∀ seqNum : Fin (tblChunks bytes),
        (asked seqNum).payload = tblChunk bytes seqNum := by
      intro seqNum
      obtain ⟨read, hread, hkey, hbytes⟩ := (asked seqNum).reading
      obtain ⟨attr, hattr, hkeyAttr⟩ := (asked seqNum).attr
      have hanswered : TblAnswer (asked seqNum).run (.getNext key.classId key.instanceId
          (asked seqNum).env (asked seqNum).msg) :=
        (TblReading.of_reachOn (asked seqNum).reach).answer (asked seqNum).granted
      have hanswer := hanswered attr hattr read hread (by rw [hkey, ← hkeyAttr])
      rw [hbytes, (asked seqNum).seqNum_eq, if_pos seqNum.isLt] at hanswer
      exact hanswer.2.2
    have hrange : (List.finRange (tblChunks bytes)).map Fin.val = List.range (tblChunks bytes) := by
      apply List.ext_getElem <;> simp
    calc ((List.finRange (tblChunks bytes)).flatMap fun seqNum => (asked seqNum).payload).take
          bytes.length
        = (((List.finRange (tblChunks bytes)).map Fin.val).flatMap (tblChunk bytes)).take
            bytes.length := by simp only [hpayload, List.flatMap_map]
      _ = ((List.range (tblChunks bytes)).flatMap (tblChunk bytes)).take bytes.length := by
          rw [hrange]
      _ = bytes := flatMap_tblChunk bytes

/-! ## A class with tables -/

/-- The tables of a multicast operations profile, as its internal data and the multicast
daemon hold them; the list of lost groups may be out of reach. -/
structure McOpsTables where
  dynamicAcl : List Byte
  staticAcl : List Byte
  lostGroups : Option (List Byte)

/-- A copy in allocated memory, which for an empty table is left out. -/
def TblCopied.alloc {ω : Type} (copied : TblCopied ω) (bytes : List Byte) : TblCopied ω :=
  { copied with
    dataSize := bytes.length
    data := if bytes.isEmpty then none else some (.heap bytes) }

/-- The content of a table. -/
def McOpsTables.table (tables : McOpsTables) (attr : Attr) : Except OmciError (List Byte) :=
  match attr with
  | 6 => .ok tables.dynamicAcl
  | 7 => .ok tables.staticAcl
  | 8 =>
      match tables.lostGroups with
      | some lostGroups => .ok lostGroups
      | none => .error .drv
  | _ => .error .invalidMeAttr

theorem McOpsTables.table_ne_success (tables : McOpsTables) (attr : Attr) :
    tables.table attr ≠ .error .success := by
  unfold McOpsTables.table
  split
  · exact nofun
  · exact nofun
  · split <;> exact nofun
  · exact nofun

/-- `me_tbl_copy` of `omci_multicast_operations_profile.c`, where memory is available. -/
def mcOpsTblCopy : TblCopyHandler (MeRef → McOpsTables) where
  run ref attr store copied :=
    match (store.outer ref).table attr with
    | .ok bytes => (.success, copied.alloc bytes)
    | .error err => (err, copied)
  provided := by
    intro ref attr store copied hsuccess
    cases htable : (store.outer ref).table attr with
    | ok bytes => cases bytes <;> rfl
    | error err =>
        rw [htable] at hsuccess
        obtain rfl : err = .success := hsuccess
        exact absurd htable ((store.outer ref).table_ne_success attr)

open AttrProp in
/-- The attributes of `me_multicast_operations_profile_class` and what copies its tables. -/
def meMulticastOperationsProfileClass : TblClass (MeRef → McOpsTables) where
  classId := 309
  attrs := packedAttrs
    [(1, rd ||| wr ||| sbc, none), (1, rd ||| wr ||| sbc, none), (1, rd ||| wr ||| sbc, none),
      (2, rd ||| wr ||| sbc, none), (1, rd ||| wr ||| sbc, none), (4, rd ||| wr ||| sbc, none),
      (24, rd ||| wr ||| table ||| noUpload, none), (24, rd ||| wr ||| table ||| noUpload, none),
      (10, rd ||| table ||| noUpload, none), (1, rd ||| wr ||| sbc, none),
      (4, rd ||| wr ||| sbc, none), (4, rd ||| wr ||| sbc, none), (4, rd ||| wr ||| sbc, none),
      (4, rd ||| wr, none), (1, rd ||| wr, none), (3, rd ||| wr ||| sbc, none)]
  actions := oltActions
  init := none
  shutdown := none
  validate := none
  update := none
  countersGet := .none
  thrSet := .none
  dataSize := 90
  prop := 0
  tblCopy := some mcOpsTblCopy

/-- Profile 1 has one entry in its first and two in its second table, profile 2 has others, and the
multicast daemon does not answer. -/
def mcOpsStore : Store (MeRef → McOpsTables) where
  me _ := .blank
  meList _ := []
  outer ref := ⟨List.replicate 24 (BitVec.ofNat 8 ref), List.replicate 48 (BitVec.ofNat 8 ref), none⟩

def mcOpsRequest (attr : Attr) (seqNum : BitVec 16) : OmciMsg :=
  OmciMsg.zero.write 0 (octets16 (omciAttr2mask attr) ++ octets16 seqNum)

def mcOpsGet (profile : Nat) (attr : Attr) : TblEvent (MeRef → McOpsTables) :=
  .get meMulticastOperationsProfileClass profile (BitVec.ofNat 16 profile)
    ⟨fun _ store => (store, .success), true⟩ (mcOpsRequest attr 0)

/-- A GET_NEXT for a table of a profile, with memory for the timer. -/
def mcOpsGetNext (profile : Nat) (attr : Attr) (seqNum : BitVec 16) :
    TblEvent (MeRef → McOpsTables) :=
  .getNext 309 (BitVec.ofNat 16 profile) ⟨fun _ store => (store, .success), true⟩
    (mcOpsRequest attr seqNum)

/-- A table of 48 bytes is announced and returned in two pieces. -/
theorem tblAnswer_mcOps : ∃ announced half,
    tblStep (.start mcOpsStore) (mcOpsGet 1 7) = some announced ∧
    announced.reads.map (fun read => tblChunks read.bytes) = [2] ∧
    TblAnswer announced (mcOpsGetNext 1 7 0) ∧
    tblStep announced (mcOpsGetNext 1 7 0) = some half ∧ TblAnswer half (mcOpsGetNext 1 7 1) := by
  have hguard : TblGuard (.start mcOpsStore) (mcOpsGet 1 7) := by
    refine ⟨nofun, fun get hget => ?_⟩
    obtain rfl := Option.some.inj hget
    exact ⟨by decide, rfl, by decide⟩
  have hannounced : ∀ run, tblStep (.start mcOpsStore) (mcOpsGet 1 7) = some run →
      ReachOn tblStep TblGuard (.start mcOpsStore) run :=
    fun _ hstep => .tail .refl hguard hstep
  have hnext : ∀ run, TblGuard run (mcOpsGetNext 1 7 0) := fun _ => rfl
  have hanswer := (tblAnswer_of_guard mcOpsStore).1
  exact ⟨_, _, rfl, by decide, (hanswer _ (hannounced _ rfl)).1 _ rfl, rfl,
    (hanswer _ (.tail (hannounced _ rfl) (hnext _) rfl)).1 _ rfl⟩

def TblEvent.granted : TblEvent ω → Bool
  | .get _ _ _ env _ | .getNext _ _ env _ => env.timeoutEventAdd
  | .timeout _ | .store _ => true

/-- GETs of a table that the daemon cannot provide fill the cache, so a second table in it is
one too many: the first cannot be read any more. -/
theorem mcOps_not_tblAnswer : ¬ ∀ run event,
    ReachOn tblStep (fun _ event => event.granted = true) (.start mcOpsStore) run →
      event.granted = true → TblAnswer run event := by
  intro hanswer
  have hrun : ∃ run, ReachOn tblStep (fun _ event => event.granted = true) (.start mcOpsStore) run ∧
      ((∃ read ∈ run.reads, read.key = ⟨309, 1, 7⟩ ∧ read.bytes = List.replicate 24 1) ∧
        (getNextActionHandle 309 1 ⟨fun _ store => (store, .success), true⟩ run.state
          (mcOpsRequest 6 0) (rspCreate (mcOpsRequest 6 0))).error = .action) :=
    have htest : (execOn tblStep (fun _ event => event.granted = true) (.start mcOpsStore)
        [mcOpsGet 1 6, mcOpsGet 1 8, mcOpsGet 2 8, mcOpsGet 3 8, mcOpsGet 4 8, mcOpsGet 2 6]).any
        (fun run => decide ((∃ read ∈ run.reads, read.key = ⟨309, 1, 7⟩ ∧
            read.bytes = List.replicate 24 1) ∧
          (getNextActionHandle 309 1 ⟨fun _ store => (store, .success), true⟩ run.state
            (mcOpsRequest 6 0) (rspCreate (mcOpsRequest 6 0))).error = .action)) = true := by decide
    exists_reachOn_of_execOn htest
  obtain ⟨run, hreach, ⟨read, hread, hkey, hbytes⟩, herror⟩ := hrun
  have hright := hanswer run (mcOpsGetNext 1 6 0) hreach rfl 6 (by decide) read hread hkey
  rw [hbytes, if_pos (by decide)] at hright
  exact absurd (herror.symm.trans hright.1) nofun

end FalconGpon.Omci
