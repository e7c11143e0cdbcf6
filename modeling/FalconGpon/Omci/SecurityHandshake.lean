/-
# The handshake of the Enhanced Security Control ME

A status is set back by the rows that come after it, and the challenge of the ONU is made when
the status of the challenge of the OLT becomes true. The capabilities and the rows of the
challenge set the new data back, which the SET then commits. The rows of the result set the
stored data back by a write of their own, and the SET commits the old value over it. The
challenge of the ONU is made before all is known that may refuse the SET.
-/

import FalconGpon.Omci.EnhancedSecurityRuns

namespace FalconGpon.Omci

open FalconGpon.Lib

/-! ## The table of the ONU -/

def EnhSecData.chlRows (data : EnhSecData) : Nat :=
  (data.keyLen + 15) / 16

def rowBytes (row : BitVec 128) : List (BitVec 8) :=
  (List.range 16).map fun i : Nat => row.extractLsb' (8 * (15 - i)) 8

def challengeBytes (random : Nat → BitVec 128) (keyLen : Nat) : List (BitVec 8) :=
  (((List.range ((keyLen + 15) / 16)).map random).flatMap rowBytes).take keyLen

namespace EnhSecCtrl

variable (env : EnhSecEnv) (me : EnhSecCtrl) (msg : EnhSecSet) (enabled : Bool)

/-- `onu_random_chl_update_enabled` after `onu_random_chl_generate`: the return from the loop over
the rows leaves it set. -/
def generateEnabled : Bool :=
  if me.data.keyLen = 0 then enabled
  else if env.random.isNone then enabled
  else !decide (me.data.chlRows ≤ env.onuRows)

/-- The flag after `olt_chl_status_update_action`. -/
def chlStatusEnabled (status : Bool) : Bool :=
  if !status then enabled
  else if !rowsFrom 1 me.oltRandomChl.list then enabled
  else if !env.alloc then enabled
  else generateEnabled env { me with oltRandomChl := .clear } enabled

/-- The flag after `set_action_handle`; no other handler of `me_update` changes it. -/
def setEnabled : Bool :=
  if !msg.isDataUpdated me.data then enabled
  else if !msg.isValid then enabled
  else
    let chl := updateChl env me msg (msg.fetch me.data)
    if chl.1.2 then
      chlStatusEnabled env chl.1.1 enabled (msg.oltChlStatus.isSome && chl.2.oltChlStatus)
    else enabled

end EnhSecCtrl

def handshakeStep (state : EnhSecCtrl × Bool) (event : EnhSecEnv × EnhSecSet) :
    Option (EnhSecCtrl × Bool) :=
  some ((state.1.set event.1 event.2).1, state.1.setEnabled event.1 event.2 state.2)

/-! ## What is to hold -/

/-- The SET has the capabilities or a row of the challenge of the OLT. -/
def EnhSecSet.resetsChl (msg : EnhSecSet) : Bool :=
  match msg.long with
  | some (.oltCryptoCaps _) => true
  | some (.oltRandomChlTable _) => true
  | _ => false

def EnhSecCtrl.ChlAccepted (env : EnhSecEnv) (me : EnhSecCtrl) (msg : EnhSecSet) : Prop :=
  msg.oltChlStatus = some 1 →
    rowsFrom 1 me.oltRandomChl.list = true ∧ env.Generates me.data

/-- A row is written to an empty result table. -/
def EnhSecCtrl.RowWritten (env : EnhSecEnv) (me : EnhSecCtrl) (msg : EnhSecSet) : Prop :=
  msg.isValid = true ∧ me.ChlAccepted env msg ∧ env.rowAlloc = true ∧
    me.oltAuthResult.list = [] ∧
      ∃ entry, msg.long = some (.oltAuthResultTable entry) ∧ entry.rowNumber ≠ 0

/-- What a SET is to do to the statuses and to the challenge of the ONU. -/
structure HandshakeKept (before : EnhSecCtrl × Bool) (event : EnhSecEnv × EnhSecSet)
    (after : EnhSecCtrl × Bool) : Prop where
  chlReset : (before.1.set event.1 event.2).2 = true → event.2.resetsChl = true →
    after.1.data.oltChlStatus = false
  chlStays : before.1.data.oltChlStatus = false → after.1.data.oltChlStatus = true →
    (before.1.set event.1 event.2).2 = true ∧ event.2.oltChlStatus = some 1
  resultReset : before.1.RowWritten event.1 event.2 → after.1.data.oltResultStatus = false
  resultStays : before.1.data.oltResultStatus = false → after.1.data.oltResultStatus = true →
    (before.1.set event.1 event.2).2 = true ∧ event.2.oltResultStatus = some 1
  /-- The table changes with a status that is set to true. -/
  onuChanges : after.1.onuRandomChl ≠ before.1.onuRandomChl →
    (before.1.set event.1 event.2).2 = true ∧ event.2.oltChlStatus = some 1 ∧
      after.1.data.oltChlStatus = true
  /-- A status that is looked at and set to true leaves the generated challenge. -/
  onuChallenge : (before.1.set event.1 event.2).2 = true →
    event.2.isDataUpdated before.1.data = true → event.2.oltChlStatus = some 1 →
      after.1.data.oltChlStatus = true → ∃ random ∈ event.1.random,
        after.1.onuRandomChl.flatMap rowBytes = challengeBytes random before.1.data.keyLen
  disabled : after.2 = false

/-! ## When it holds -/

def ResultAccepted (data : EnhSecData) (table : RowTable RowEntry) (msg : EnhSecSet) : Prop :=
  msg.oltResultStatus = some 1 →
    data.keyLen = table.entriesNum * 16 ∧ rowsFrom 1 table.list = true

/-- What comes behind the challenge in a SET is not refused. -/
def EnhSecCtrl.LaterAccepted (env : EnhSecEnv) (me : EnhSecCtrl) (msg : EnhSecSet) : Prop :=
  match msg.long with
  | some (.oltAuthResultTable entry) =>
      ∃ table, rowEntrySet env.rowAlloc me.oltAuthResult entry = some table ∧
        ResultAccepted me.data table msg
  | some (.broadcastKeyTable entry) =>
      ResultAccepted me.data me.oltAuthResult msg ∧
        (me.data.onuSelectedCryptoCaps = 0 ∨
          (broadcastKeyEntrySet env.rowAlloc me.broadcastKey entry).isSome = true)
  | _ => ResultAccepted me.data me.oltAuthResult msg

/-- A SET comes to the rows of the challenge of the ONU, with its random numbers. -/
def EnhSecCtrl.Reaches (env : EnhSecEnv) (me : EnhSecCtrl) (msg : EnhSecSet)
    (random : Nat → BitVec 128) : Prop :=
  msg.isDataUpdated me.data = true ∧ msg.isValid = true ∧ msg.oltChlStatus = some 1 ∧
    msg.resetsChl = false ∧ rowsFrom 1 me.oltRandomChl.list = true ∧ env.alloc = true ∧
      me.data.keyLen ≠ 0 ∧ env.random = some random

/-- The condition on a SET. -/
structure HandshakeMeets (me : EnhSecCtrl) (event : EnhSecEnv × EnhSecSet) : Prop where
  /-- A row comes to an empty result table while the status is false, unless the SET is refused
  by the status that it has. -/
  result : me.RowWritten event.1 event.2 → me.LaterAccepted event.1 event.2 →
    newStatus me.data.oltResultStatus event.2.oltResultStatus = false
  /-- There is memory for all rows of the challenge of the ONU. -/
  rows : ∀ random, me.Reaches event.1 event.2 random → me.data.chlRows ≤ event.1.onuRows
  /-- Once they are there the SET is not refused, or they are the old ones. -/
  sent : ∀ random, me.Reaches event.1 event.2 random →
    ¬(event.1.avc = true ∧ me.LaterAccepted event.1 event.2) →
      (List.range me.data.chlRows).map random = me.onuRandomChl
  /-- The key has a length of whole rows. -/
  whole : ∀ random, me.Reaches event.1 event.2 random → event.1.avc = true →
    me.LaterAccepted event.1 event.2 → 16 ∣ me.data.keyLen

/-! ## The handlers one by one -/

section Handlers

variable {env : EnhSecEnv} {me : EnhSecCtrl} {msg : EnhSecSet} {enabled : Bool}
  {random : Nat → BitVec 128}

theorem returnIfError_fst {σ : Type} {Q : σ → Prop} {done : σ × Bool} {next : σ → σ × Bool}
    (hdone : Q done.1) (hnext : ∀ state, Q state → Q (next state).1) :
    Q (returnIfError done next).1 := by
  rw [returnIfError]
  split
  · exact hnext _ hdone
  · exact hdone

theorem returnIfError_of_true {σ : Type} {done : σ × Bool} (next : σ → σ × Bool)
    (hdone : done.2 = true) : returnIfError done next = next done.1 :=
  if_pos hdone

theorem returnIfError_of_false {σ : Type} {done : σ × Bool} (next : σ → σ × Bool)
    (hdone : done.2 = false) : returnIfError done next = done :=
  if_neg (hdone ▸ Bool.false_ne_true)

theorem returnIfError_snd {σ : Type} {done : σ × Bool} {next : σ → σ × Bool} :
    (returnIfError done next).2 = true ↔ done.2 = true ∧ (next done.1).2 = true := by
  cases hdone : done.2 with
  | true => rw [returnIfError_of_true next hdone, and_iff_right rfl]
  | false =>
      rw [returnIfError_of_false next hdone, hdone]
      exact iff_of_false Bool.false_ne_true fun h => Bool.false_ne_true h.1

theorem updateChl_of_not_resets (hresets : msg.resetsChl = false) (upd : EnhSecData) :
    EnhSecCtrl.updateChl env me msg upd = ((me, true), upd) := by
  rw [EnhSecCtrl.updateChl]
  split
  · rename_i last hlong
    simp [EnhSecSet.resetsChl, hlong] at hresets
  · rename_i entry hlong
    simp [EnhSecSet.resetsChl, hlong] at hresets
  · rfl

/-- What the first part leaves alone. -/
structure ChlPart (me : EnhSecCtrl) (upd : EnhSecData) (done : (EnhSecCtrl × Bool) × EnhSecData) :
    Prop where
  data : done.1.1.data = me.data
  onuRandomChl : done.1.1.onuRandomChl = me.onuRandomChl
  oltAuthResult : done.1.1.oltAuthResult = me.oltAuthResult
  chlStatus : done.2.oltChlStatus = false
  resultStatus : done.2.oltResultStatus = upd.oltResultStatus

/-- With such an attribute the new challenge status is false. -/
theorem updateChl_of_resets (hresets : msg.resetsChl = true) (upd : EnhSecData) :
    ChlPart me upd (EnhSecCtrl.updateChl env me msg upd) := by
  rw [EnhSecCtrl.updateChl]
  split
  · rw [EnhSecCtrl.oltCryptoCapsUpdateAction]
    dsimp only
    split
    · exact ⟨rfl, rfl, rfl, rfl, rfl⟩
    · split <;> exact ⟨rfl, rfl, rfl, rfl, rfl⟩
  · rename_i entry _
    rw [EnhSecCtrl.oltRandomChlTblEntrySet]
    cases rowEntrySet env.rowAlloc me.oltRandomChl entry with
    | none => exact ⟨rfl, rfl, rfl, rfl, rfl⟩
    | some table => exact ⟨rfl, rfl, rfl, rfl, rfl⟩
  · rename_i hcaps hrow
    exfalso
    revert hresets
    rw [EnhSecSet.resetsChl]
    split
    · rename_i last hlong
      exact absurd hlong (hcaps last)
    · rename_i entry hlong
      exact absurd hlong (hrow entry)
    · exact Bool.false_ne_true

/-- What a status of the challenge leaves alone. -/
structure StatusPart (before after : EnhSecCtrl) : Prop where
  data : after.data = before.data
  oltAuthResult : after.oltAuthResult = before.oltAuthResult
  broadcastKey : after.broadcastKey = before.broadcastKey

theorem oltChlStatusUpdateAction_part (status : Bool) :
    StatusPart me (EnhSecCtrl.oltChlStatusUpdateAction env me status).1 := by
  rw [EnhSecCtrl.oltChlStatusUpdateAction, EnhSecCtrl.onuRandomChlGenerate]
  repeat' split
  all_goals exact ⟨rfl, rfl, rfl⟩

/-- The challenge of the ONU is made. -/
theorem oltChlStatusUpdateAction_of_reaches (hrows : rowsFrom 1 me.oltRandomChl.list = true)
    (halloc : env.alloc = true) (hlen : me.data.keyLen ≠ 0) (hrandom : env.random = some random) :
    EnhSecCtrl.oltChlStatusUpdateAction env me true =
        ({ me with
          oltRandomChl := .clear
          onuRandomChl := (List.range (min me.data.chlRows env.onuRows)).map random },
          decide (me.data.chlRows ≤ env.onuRows) && env.avc) ∧
      me.chlStatusEnabled env enabled true = !decide (me.data.chlRows ≤ env.onuRows) := by
  constructor
  · rw [EnhSecCtrl.oltChlStatusUpdateAction, hrows, halloc]
    show EnhSecCtrl.onuRandomChlGenerate env _ = _
    rw [EnhSecCtrl.onuRandomChlGenerate, if_neg hlen, hrandom]
    rfl
  · rw [EnhSecCtrl.chlStatusEnabled, hrows, halloc]
    show EnhSecCtrl.generateEnabled env _ enabled = _
    rw [EnhSecCtrl.generateEnabled, if_neg hlen, hrandom]
    rfl

/-- A challenge of the OLT that cannot be answered. -/
theorem oltChlStatusUpdateAction_of_not_reaches
    (hnot : ¬(rowsFrom 1 me.oltRandomChl.list = true ∧ env.alloc = true ∧ me.data.keyLen ≠ 0 ∧
      env.random.isSome = true)) : (EnhSecCtrl.oltChlStatusUpdateAction env me true).2 = false ∧
      (EnhSecCtrl.oltChlStatusUpdateAction env me true).1.onuRandomChl = me.onuRandomChl ∧
      me.chlStatusEnabled env enabled true = enabled := by
  rw [EnhSecCtrl.oltChlStatusUpdateAction, EnhSecCtrl.chlStatusEnabled]
  cases hrows : rowsFrom 1 me.oltRandomChl.list with
  | false => exact ⟨rfl, rfl, rfl⟩
  | true =>
      cases halloc : env.alloc with
      | false => exact ⟨rfl, rfl, rfl⟩
      | true =>
          show (EnhSecCtrl.onuRandomChlGenerate env _).2 = false ∧
            (EnhSecCtrl.onuRandomChlGenerate env _).1.onuRandomChl = me.onuRandomChl ∧
            EnhSecCtrl.generateEnabled env _ enabled = enabled
          rw [EnhSecCtrl.onuRandomChlGenerate, EnhSecCtrl.generateEnabled]
          by_cases hlen : me.data.keyLen = 0
          · rw [if_pos hlen, if_pos hlen]
            exact ⟨rfl, rfl, rfl⟩
          · cases hrandom : env.random with
            | some random => exact absurd ⟨hrows, halloc, hlen, by rw [hrandom]; rfl⟩ hnot
            | none =>
                rw [if_neg hlen, if_neg hlen]
                exact ⟨rfl, rfl, rfl⟩

/-- The rest of `me_update`. -/
def laterUpdate (env : EnhSecEnv) (msg : EnhSecSet) (status : Bool) (me : EnhSecCtrl) :
    EnhSecCtrl × Bool :=
  returnIfError (EnhSecCtrl.updateResult env me msg) fun me =>
    returnIfError (EnhSecCtrl.oltResultStatusUpdateAction me status) fun me =>
      EnhSecCtrl.updateKey env me msg

/-- What a handler leaves alone, but for the stored result status. -/
structure LaterPart (before after : EnhSecCtrl) : Prop where
  onuRandomChl : after.onuRandomChl = before.onuRandomChl
  data : after.data = before.data ∨ after.data = { before.data with oltResultStatus := false }

theorem LaterPart.refl (me : EnhSecCtrl) : LaterPart me me :=
  ⟨rfl, .inl rfl⟩

theorem LaterPart.trans {middle after : EnhSecCtrl} (hfirst : LaterPart me middle)
    (hsecond : LaterPart middle after) : LaterPart me after where
  onuRandomChl := hsecond.onuRandomChl.trans hfirst.onuRandomChl
  data := by
    rcases hsecond.data with hdata | hdata <;> rcases hfirst.data with hdata' | hdata' <;>
      rw [hdata, hdata'] <;> simp

theorem updateResult_part : LaterPart me (EnhSecCtrl.updateResult env me msg).1 := by
  rw [EnhSecCtrl.updateResult]
  split
  · rename_i entry _
    rw [EnhSecCtrl.oltAuthResultTblEntrySet]
    by_cases hempty : me.oltAuthResult.entriesNum = 0
    · rw [if_pos hempty]
      dsimp only
      split <;> exact ⟨rfl, .inr rfl⟩
    · rw [if_neg hempty]
      split <;> exact ⟨rfl, .inl rfl⟩
  · exact .refl me

theorem oltResultStatusUpdateAction_part (status : Bool) :
    LaterPart me (EnhSecCtrl.oltResultStatusUpdateAction me status).1 := by
  rw [EnhSecCtrl.oltResultStatusUpdateAction]
  repeat' split
  all_goals exact ⟨rfl, .inl rfl⟩

theorem updateKey_part : LaterPart me (EnhSecCtrl.updateKey env me msg).1 := by
  rw [EnhSecCtrl.updateKey]
  split
  · rw [EnhSecCtrl.broadcastKeyTblEntrySet]
    repeat' split
    all_goals exact ⟨rfl, .inl rfl⟩
  · exact .refl me

theorem laterUpdate_part (status : Bool) : LaterPart me (laterUpdate env msg status me).1 := by
  rw [laterUpdate]
  refine returnIfError_fst updateResult_part fun middle hmiddle => ?_
  refine returnIfError_fst (hmiddle.trans (oltResultStatusUpdateAction_part status)) ?_
  exact fun last hlast => hlast.trans updateKey_part

theorem oltResultStatusUpdateAction_snd :
    (EnhSecCtrl.oltResultStatusUpdateAction me (decide (msg.oltResultStatus = some 1))).2 = true ↔
      ResultAccepted me.data me.oltAuthResult msg := by
  rw [EnhSecCtrl.oltResultStatusUpdateAction, ResultAccepted]
  by_cases hstatus : msg.oltResultStatus = some 1
  · rw [decide_eq_true hstatus]
    by_cases hlen : me.data.keyLen = me.oltAuthResult.entriesNum * 16
    · cases hrows : rowsFrom 1 me.oltAuthResult.list <;> simp [hstatus, hlen]
    · simp [hstatus, hlen]
  · rw [decide_eq_false hstatus]
    exact iff_of_true rfl fun h => absurd h hstatus

/-- The ME after the stored result status is written, if the table is empty. -/
theorem oltAuthResultTblEntrySet_eq (entry : RowEntry) :
    ∃ stored, (stored = me.data.oltResultStatus ∨ stored = false) ∧
      (me.oltAuthResult.entriesNum = 0 → stored = false) ∧
        EnhSecCtrl.oltAuthResultTblEntrySet env me entry =
          match rowEntrySet env.rowAlloc me.oltAuthResult entry with
          | some table => ({ me with
              data := { me.data with oltResultStatus := stored }, oltAuthResult := table }, true)
          | none => ({ me with data := { me.data with oltResultStatus := stored } }, false) := by
  by_cases hempty : me.oltAuthResult.entriesNum = 0
  · refine ⟨false, .inr rfl, fun _ => rfl, ?_⟩
    cases hset : rowEntrySet env.rowAlloc me.oltAuthResult entry with
    | none | some table => simp only [EnhSecCtrl.oltAuthResultTblEntrySet, if_pos hempty, hset]
  · refine ⟨me.data.oltResultStatus, .inl rfl, fun h => absurd h hempty, ?_⟩
    cases hset : rowEntrySet env.rowAlloc me.oltAuthResult entry with
    | none | some table => simp only [EnhSecCtrl.oltAuthResultTblEntrySet, if_neg hempty, hset]

/-- The answer of the rest of `me_update`. -/
theorem laterUpdate_snd :
    (laterUpdate env msg (decide (msg.oltResultStatus = some 1)) me).2 = true ↔
      me.LaterAccepted env msg := by
  rw [laterUpdate, returnIfError_snd, returnIfError_snd, EnhSecCtrl.LaterAccepted]
  split
  · rename_i entry hlong
    have hresult : EnhSecCtrl.updateResult env me msg =
        EnhSecCtrl.oltAuthResultTblEntrySet env me entry := by
      rw [EnhSecCtrl.updateResult, hlong]
    have hkey : ∀ last, EnhSecCtrl.updateKey env last msg = (last, true) := by
      intro last
      rw [EnhSecCtrl.updateKey, hlong]
    obtain ⟨stored, _, _, hset⟩ := @oltAuthResultTblEntrySet_eq env me entry
    rw [hresult, hset, hkey]
    cases rowEntrySet env.rowAlloc me.oltAuthResult entry with
    | none => simp
    | some table =>
        simp only [true_and, and_true, Option.some.injEq, exists_eq_left',
          oltResultStatusUpdateAction_snd]
        exact Iff.rfl
  · rename_i entry hlong
    have hresult : EnhSecCtrl.updateResult env me msg = (me, true) := by
      rw [EnhSecCtrl.updateResult, hlong]
    have hpart : (EnhSecCtrl.oltResultStatusUpdateAction me _).1.broadcastKey = _ ∧ _ :=
      oltResultStatus_kept (decide (msg.oltResultStatus = some 1))
    rw [hresult, and_iff_right rfl, oltResultStatusUpdateAction_snd]
    apply and_congr_right'
    rw [EnhSecCtrl.updateKey, hlong]
    show (EnhSecCtrl.broadcastKeyTblEntrySet env _ entry).2 = true ↔ _
    rw [EnhSecCtrl.broadcastKeyTblEntrySet, hpart.2, hpart.1]
    by_cases hcaps : me.data.onuSelectedCryptoCaps = 0
    · rw [if_pos hcaps]
      exact iff_of_true rfl (.inl hcaps)
    · rw [if_neg hcaps]
      cases broadcastKeyEntrySet env.rowAlloc me.broadcastKey entry with
      | none => exact iff_of_false Bool.false_ne_true fun h => h.elim hcaps Bool.false_ne_true
      | some table => exact iff_of_true rfl (.inr rfl)
  · rename_i hrow hkey
    have hresult : EnhSecCtrl.updateResult env me msg = (me, true) := by
      rw [EnhSecCtrl.updateResult]
      split
      · rename_i entry hlong
        exact absurd hlong (hrow entry)
      · rfl
    have hlast : ∀ last, EnhSecCtrl.updateKey env last msg = (last, true) := by
      intro last
      rw [EnhSecCtrl.updateKey]
      split
      · rename_i entry hlong
        exact absurd hlong (hkey entry)
      · rfl
    rw [hresult, hlast, and_iff_right rfl, oltResultStatusUpdateAction_snd]
    exact and_iff_left rfl

/-- A row for an empty table leaves the stored status false until the SET commits. -/
theorem laterUpdate_stored {entry : RowEntry} (hlong : msg.long = some (.oltAuthResultTable entry))
    (hempty : me.oltAuthResult.entriesNum = 0) (status : Bool) :
    (laterUpdate env msg status me).1.data.oltResultStatus = false := by
  have hstays : ∀ {before after : EnhSecCtrl}, LaterPart before after →
      before.data.oltResultStatus = false → after.data.oltResultStatus = false := by
    intro before after hpart hbefore
    rcases hpart.data with hdata | hdata
    · rw [hdata]
      exact hbefore
    · rw [hdata]
  have hfirst : (EnhSecCtrl.updateResult env me msg).1.data.oltResultStatus = false := by
    have ⟨stored, _, hstored, hset⟩ := @oltAuthResultTblEntrySet_eq env me entry
    rw [EnhSecCtrl.updateResult, hlong]
    show (EnhSecCtrl.oltAuthResultTblEntrySet env me entry).1.data.oltResultStatus = false
    rw [hset, hstored hempty]
    cases rowEntrySet env.rowAlloc me.oltAuthResult entry <;> rfl
  rw [laterUpdate]
  refine returnIfError_fst (Q := fun me : EnhSecCtrl => me.data.oltResultStatus = false) hfirst ?_
  intro middle hmiddle
  refine returnIfError_fst (Q := fun me : EnhSecCtrl => me.data.oltResultStatus = false)
    (hstays (oltResultStatusUpdateAction_part status) hmiddle) ?_
  exact fun last hlast => hstays updateKey_part hlast

/-! ## A SET as a whole -/

theorem set_of_not_updated (hupdated : msg.isDataUpdated me.data = false) :
    me.set env msg = (me, true) ∧ me.setEnabled env msg enabled = enabled := by
  rw [EnhSecCtrl.set, EnhSecCtrl.setEnabled, hupdated]
  exact ⟨rfl, rfl⟩

theorem set_of_not_valid (hupdated : msg.isDataUpdated me.data = true)
    (hvalid : msg.isValid = false) :
    me.set env msg = (me, false) ∧ me.setEnabled env msg enabled = enabled := by
  rw [EnhSecCtrl.set, EnhSecCtrl.setEnabled, hupdated, hvalid]
  exact ⟨rfl, rfl⟩

/-- The handlers of a SET, without the commit. -/
def setParts (env : EnhSecEnv) (me : EnhSecCtrl) (msg : EnhSecSet) : EnhSecCtrl × Bool :=
  let chl := EnhSecCtrl.updateChl env me msg (msg.fetch me.data)
  returnIfError chl.1 fun me =>
    returnIfError (EnhSecCtrl.oltChlStatusUpdateAction env me
      (msg.oltChlStatus.isSome && chl.2.oltChlStatus))
        (laterUpdate env msg (decide (msg.oltResultStatus = some 1)))

theorem updateChl_resultStatus :
    (EnhSecCtrl.updateChl env me msg (msg.fetch me.data)).2.oltResultStatus =
      newStatus me.data.oltResultStatus msg.oltResultStatus := by
  cases hresets : msg.resetsChl with
  | true => exact (updateChl_of_resets hresets _).resultStatus
  | false =>
      rw [updateChl_of_not_resets hresets]
      rfl

/-- The SET commits the new data over what the handlers leave. -/
theorem set_eq (hupdated : msg.isDataUpdated me.data = true) (hvalid : msg.isValid = true) :
    me.set env msg =
      (if (setParts env me msg).2 then { (setParts env me msg).1 with
        data := (EnhSecCtrl.updateChl env me msg (msg.fetch me.data)).2 }
      else (setParts env me msg).1, (setParts env me msg).2) := by
  have hparts : (me.meUpdate env msg (msg.fetch me.data)).1 = setParts env me msg := by
    rw [EnhSecCtrl.meUpdate, updateChl_resultStatus, isSome_and_newStatus]
    rfl
  simp only [EnhSecCtrl.set, hupdated, hvalid, Bool.not_true, Bool.false_eq_true, if_false, hparts]
  cases hok : (setParts env me msg).2 with
  | true =>
      rw [returnIfError_of_true _ hok]
      rfl
  | false =>
      rw [returnIfError_of_false _ hok]
      exact Prod.ext rfl hok

theorem set_parts (hupdated : msg.isDataUpdated me.data = true) (hvalid : msg.isValid = true) :
    (me.set env msg).1.onuRandomChl = (setParts env me msg).1.onuRandomChl ∧
      (me.set env msg).2 = (setParts env me msg).2 := by
  rw [set_eq hupdated hvalid]
  cases (setParts env me msg).2 <;> exact ⟨rfl, rfl⟩

def DataPart (before after : EnhSecCtrl) : Prop :=
  after.data = before.data ∨ after.data = { before.data with oltResultStatus := false }

theorem setParts_data : DataPart me (setParts env me msg).1 := by
  have hchl : (EnhSecCtrl.updateChl env me msg (msg.fetch me.data)).1.1.data = me.data := by
    cases hresets : msg.resetsChl with
    | true => exact (updateChl_of_resets hresets _).data
    | false => rw [updateChl_of_not_resets hresets]
  rw [setParts]
  refine returnIfError_fst (.inl hchl) fun first hfirst => ?_
  have hstatus : ∀ status,
      DataPart me (EnhSecCtrl.oltChlStatusUpdateAction env first status).1 := by
    intro status
    rw [DataPart, (oltChlStatusUpdateAction_part status).data]
    exact hfirst
  refine returnIfError_fst (hstatus _) fun second hsecond => ?_
  rcases (laterUpdate_part (decide (msg.oltResultStatus = some 1))).data with hdata | hdata
  · rw [DataPart, hdata]
    exact hsecond
  · right
    rcases hsecond with hsecond | hsecond <;> rw [hdata, hsecond]

theorem setParts_of_resets (hresets : msg.resetsChl = true) :
    LaterPart me (setParts env me msg).1 := by
  have hpart := @updateChl_of_resets env me msg hresets (msg.fetch me.data)
  rw [setParts, hpart.chlStatus, Bool.and_false]
  refine returnIfError_fst (Q := LaterPart me) ⟨hpart.onuRandomChl, .inl hpart.data⟩ ?_
  intro first hfirst
  show LaterPart me (returnIfError (first, true) _).1
  rw [returnIfError_of_true _ rfl]
  exact hfirst.trans (laterUpdate_part _)

theorem setParts_of_not_resets (hresets : msg.resetsChl = false) :
    setParts env me msg =
      returnIfError (EnhSecCtrl.oltChlStatusUpdateAction env me
        (decide (msg.oltChlStatus = some 1)))
          (laterUpdate env msg (decide (msg.oltResultStatus = some 1))) := by
  rw [setParts, updateChl_of_not_resets hresets]
  show returnIfError (EnhSecCtrl.oltChlStatusUpdateAction env me
    (msg.oltChlStatus.isSome && newStatus me.data.oltChlStatus msg.oltChlStatus)) _ = _
  rw [isSome_and_newStatus]

/-- The flag after a SET. -/
theorem setEnabled_eq (hupdated : msg.isDataUpdated me.data = true) (hvalid : msg.isValid = true) :
    me.setEnabled env msg enabled =
      if msg.resetsChl then enabled
      else me.chlStatusEnabled env enabled (decide (msg.oltChlStatus = some 1)) := by
  simp only [EnhSecCtrl.setEnabled, hupdated, hvalid, Bool.not_true, Bool.false_eq_true, if_false]
  cases hresets : msg.resetsChl with
  | true =>
      have hpart := @updateChl_of_resets env me msg hresets (msg.fetch me.data)
      rw [hpart.chlStatus, Bool.and_false]
      exact ite_self _
  | false =>
      rw [updateChl_of_not_resets hresets]
      show EnhSecCtrl.chlStatusEnabled env me enabled
        (msg.oltChlStatus.isSome && newStatus me.data.oltChlStatus msg.oltChlStatus) = _
      rw [isSome_and_newStatus]
      rfl

/-! ## What always holds -/

/-- A status that is set is the stored one if nothing is updated. -/
theorem newStatus_of_not_updated (hupdated : msg.isDataUpdated me.data = false) :
    msg.resetsChl = false ∧
      newStatus me.data.oltChlStatus msg.oltChlStatus = me.data.oltChlStatus ∧
        newStatus me.data.oltResultStatus msg.oltResultStatus = me.data.oltResultStatus := by
  have hsame : ∀ (stored : Bool) (status : Option (BitVec 8)),
      status.any (· ≠ if stored then 1 else 0) = false → newStatus stored status = stored := by
    intro stored status hany
    cases status with
    | none => rfl
    | some value =>
        have hvalue : value = if stored then 1 else 0 := by simpa using hany
        rw [newStatus, hvalue]
        cases stored <;> rfl
  obtain ⟨hboth, hresult⟩ := Bool.or_eq_false_iff.mp hupdated
  obtain ⟨hlong, hchl⟩ := Bool.or_eq_false_iff.mp hboth
  have hnone : msg.long = none := Option.isNone_iff_eq_none.mp (by simpa using hlong)
  refine ⟨?_, hsame _ _ hchl, hsame _ _ hresult⟩
  rw [EnhSecSet.resetsChl, hnone]

/-- The stored statuses after a SET: those of the new data if it is accepted. -/
theorem set_statuses : ((me.set env msg).2 = true → (me.set env msg).1.data.oltChlStatus =
          (!msg.resetsChl && newStatus me.data.oltChlStatus msg.oltChlStatus) ∧
        (me.set env msg).1.data.oltResultStatus =
          newStatus me.data.oltResultStatus msg.oltResultStatus) ∧
    ((me.set env msg).2 = false → DataPart me (me.set env msg).1) := by
  cases hupdated : msg.isDataUpdated me.data with
  | false =>
      have ⟨hresets, hchl, hresult⟩ := newStatus_of_not_updated hupdated
      rw [(@set_of_not_updated env me msg false hupdated).1, hresets, hchl, hresult]
      exact ⟨fun _ => ⟨rfl, rfl⟩, fun _ => .inl rfl⟩
  | true =>
      cases hvalid : msg.isValid with
      | false =>
          rw [(@set_of_not_valid env me msg false hupdated hvalid).1]
          exact ⟨nofun, fun _ => .inl rfl⟩
      | true =>
          rw [set_eq hupdated hvalid]
          cases hok : (setParts env me msg).2 with
          | false => exact ⟨nofun, fun _ => setParts_data⟩
          | true =>
              refine ⟨fun _ => ⟨?_, updateChl_resultStatus⟩, nofun⟩
              show (EnhSecCtrl.updateChl env me msg (msg.fetch me.data)).2.oltChlStatus = _
              cases hresets : msg.resetsChl with
              | true => exact (updateChl_of_resets hresets _).chlStatus
              | false =>
                  rw [updateChl_of_not_resets hresets]
                  rfl

theorem newStatus_of_false {status : Option (BitVec 8)} (hnew : newStatus false status = true) :
    status = some 1 := by
  cases status with
  | none => exact absurd hnew Bool.false_ne_true
  | some value => exact congrArg some (of_decide_eq_true hnew)

theorem DataPart.chlStatus {after : EnhSecCtrl} (h : DataPart me after) :
    after.data.oltChlStatus = me.data.oltChlStatus := by
  rcases h with hdata | hdata <;> rw [hdata]

theorem DataPart.resultStatus {after : EnhSecCtrl} (h : DataPart me after) :
    after.data.oltResultStatus = true → me.data.oltResultStatus = true := by
  intro hafter
  rcases h with hdata | hdata <;> rw [hdata] at hafter
  · exact hafter
  · cases hafter

theorem set_chlStays (hbefore : me.data.oltChlStatus = false)
    (hafter : (me.set env msg).1.data.oltChlStatus = true) :
    (me.set env msg).2 = true ∧ msg.oltChlStatus = some 1 := by
  cases hok : (me.set env msg).2 with
  | false =>
      rw [(set_statuses.2 hok).chlStatus, hbefore] at hafter
      cases hafter
  | true =>
      rw [(set_statuses.1 hok).1, hbefore, Bool.and_eq_true] at hafter
      exact ⟨rfl, newStatus_of_false hafter.2⟩

theorem set_resultStays (hbefore : me.data.oltResultStatus = false)
    (hafter : (me.set env msg).1.data.oltResultStatus = true) :
    (me.set env msg).2 = true ∧ msg.oltResultStatus = some 1 := by
  cases hok : (me.set env msg).2 with
  | false =>
      have hwas := (set_statuses.2 hok).resultStatus hafter
      rw [hbefore] at hwas
      cases hwas
  | true =>
      rw [(set_statuses.1 hok).2, hbefore] at hafter
      exact ⟨rfl, newStatus_of_false hafter⟩

/-! ## What holds under the condition -/

theorem oltChlStatusUpdateAction_of_accepted (h : me.ChlAccepted env msg) :
    (EnhSecCtrl.oltChlStatusUpdateAction env me (decide (msg.oltChlStatus = some 1))).2 = true := by
  by_cases hstatus : msg.oltChlStatus = some 1
  · have ⟨hrows, halloc, hlen, hrandom, hroom, havc⟩ := h hstatus
    have ⟨random, hsome⟩ := Option.isSome_iff_exists.mp hrandom
    have haction := @oltChlStatusUpdateAction_of_reaches env me false random hrows halloc hlen hsome
    rw [decide_eq_true hstatus, haction.1, havc, Bool.and_true]
    exact decide_eq_true hroom
  · rw [decide_eq_false hstatus]
    rfl

theorem StatusPart.laterAccepted_iff {after : EnhSecCtrl} (h : StatusPart me after) :
    after.LaterAccepted env msg ↔ me.LaterAccepted env msg := by
  rw [EnhSecCtrl.LaterAccepted, EnhSecCtrl.LaterAccepted, h.data, h.oltAuthResult,
    h.broadcastKey]

/-- The status after a row for an empty table. -/
theorem resultReset_iff (hcounted : me.oltAuthResult.list = [] → me.oltAuthResult.entriesNum = 0) :
    (me.RowWritten env msg → (me.set env msg).1.data.oltResultStatus = false) ↔
      (me.RowWritten env msg → me.LaterAccepted env msg →
        newStatus me.data.oltResultStatus msg.oltResultStatus = false) := by
  refine forall_congr' fun hwritten => ?_
  have ⟨hvalid, hchl, _, hempty, entry, hlong, _⟩ := hwritten
  have hresets : msg.resetsChl = false := by rw [EnhSecSet.resetsChl, hlong]
  have hupdated : msg.isDataUpdated me.data = true := by
    rw [EnhSecSet.isDataUpdated, hlong]
    rfl
  have hpart := @oltChlStatusUpdateAction_part env me (decide (msg.oltChlStatus = some 1))
  have hparts := @setParts_of_not_resets env me msg hresets
  rw [returnIfError_of_true _ (oltChlStatusUpdateAction_of_accepted hchl)] at hparts
  have hok : (me.set env msg).2 = true ↔ me.LaterAccepted env msg := by
    rw [set_eq hupdated hvalid, ← hpart.laterAccepted_iff, ← laterUpdate_snd, hparts]
  by_cases hlater : me.LaterAccepted env msg
  · rw [(set_statuses.1 (hok.mpr hlater)).2]
    exact ⟨fun h _ => h, fun h => h hlater⟩
  · have hrefused : (setParts env me msg).2 = false := by
      rw [set_eq hupdated hvalid] at hok
      exact Bool.eq_false_iff.mpr fun h => hlater (hok.mp h)
    refine iff_of_true ?_ fun h => absurd h hlater
    rw [set_eq hupdated hvalid, hrefused]
    show (setParts env me msg).1.data.oltResultStatus = false
    rw [hparts]
    refine laterUpdate_stored hlong ?_ _
    rw [hpart.oltAuthResult]
    exact hcounted hempty

/-- A SET that does not come to the challenge of the ONU leaves it alone. -/
theorem set_of_not_reaches (hnot : ∀ random, ¬me.Reaches env msg random) :
    (me.set env msg).1.onuRandomChl = me.onuRandomChl ∧
      me.setEnabled env msg enabled = enabled ∧
        ¬((me.set env msg).2 = true ∧ msg.isDataUpdated me.data = true ∧
          msg.oltChlStatus = some 1 ∧ (me.set env msg).1.data.oltChlStatus = true) := by
  cases hupdated : msg.isDataUpdated me.data with
  | false =>
      have ⟨hset, henabled⟩ := @set_of_not_updated env me msg enabled hupdated
      rw [hset, henabled]
      exact ⟨rfl, rfl, fun h => Bool.false_ne_true h.2.1⟩
  | true =>
      cases hvalid : msg.isValid with
      | false =>
          have ⟨hset, henabled⟩ := @set_of_not_valid env me msg enabled hupdated hvalid
          rw [hset, henabled]
          exact ⟨rfl, rfl, fun h => Bool.false_ne_true h.1⟩
      | true =>
          have ⟨honu, hok⟩ := @set_parts env me msg hupdated hvalid
          cases hresets : msg.resetsChl with
          | true =>
              refine ⟨honu.trans (setParts_of_resets hresets).onuRandomChl, ?_, fun h => ?_⟩
              · rw [setEnabled_eq hupdated hvalid, hresets]
                rfl
              · have hchl := (set_statuses.1 h.1).1
                rw [hresets, h.2.2.2] at hchl
                cases hchl
          | false =>
              rw [honu, hok, setEnabled_eq hupdated hvalid, hresets,
                setParts_of_not_resets hresets]
              by_cases hstatus : msg.oltChlStatus = some 1
              · have haction := @oltChlStatusUpdateAction_of_not_reaches env me enabled
                  (fun ⟨hrows, halloc, hlen, hrandom⟩ =>
                    have ⟨random, hsome⟩ := Option.isSome_iff_exists.mp hrandom
                    hnot random ⟨hupdated, hvalid, hstatus, hresets, hrows, halloc, hlen, hsome⟩)
                rw [decide_eq_true hstatus, returnIfError_of_false _ haction.1]
                refine ⟨haction.2.1, haction.2.2, fun h => ?_⟩
                exact Bool.false_ne_true (haction.1.symm.trans h.1)
              · rw [decide_eq_false hstatus]
                show (returnIfError (me, true) _).1.onuRandomChl = _ ∧ enabled = enabled ∧ _
                rw [returnIfError_of_true _ rfl]
                exact ⟨(laterUpdate_part _).onuRandomChl, rfl, fun h => hstatus h.2.2.1⟩

/-- A SET that comes to the challenge of the ONU. -/
theorem set_of_reaches (h : me.Reaches env msg random) : (me.set env msg).1.onuRandomChl =
        (List.range (min me.data.chlRows env.onuRows)).map random ∧
      me.setEnabled env msg enabled = !decide (me.data.chlRows ≤ env.onuRows) ∧
      ((me.set env msg).2 = true ↔
        me.data.chlRows ≤ env.onuRows ∧ env.avc = true ∧ me.LaterAccepted env msg) ∧
      ((me.set env msg).2 = true → (me.set env msg).1.data.oltChlStatus = true) := by
  have ⟨hupdated, hvalid, hstatus, hresets, hrows, halloc, hlen, hrandom⟩ := h
  have haction := @oltChlStatusUpdateAction_of_reaches env me enabled random hrows halloc hlen
    hrandom
  have hpart := @oltChlStatusUpdateAction_part env me true
  have ⟨honu, hok⟩ := @set_parts env me msg hupdated hvalid
  have hparts := @setParts_of_not_resets env me msg hresets
  rw [decide_eq_true hstatus] at hparts
  refine ⟨?_, ?_, ?_, ?_⟩
  · rw [honu, hparts]
    have hmade : (EnhSecCtrl.oltChlStatusUpdateAction env me true).1.onuRandomChl =
        (List.range (min me.data.chlRows env.onuRows)).map random := by
      rw [haction.1]
    refine returnIfError_fst (Q := fun last : EnhSecCtrl => last.onuRandomChl = _) hmade ?_
    exact fun last hlast => (laterUpdate_part _).onuRandomChl.trans hlast
  · rw [setEnabled_eq hupdated hvalid, hresets, decide_eq_true hstatus]
    exact haction.2
  · rw [hok, hparts, returnIfError_snd, laterUpdate_snd, hpart.laterAccepted_iff, haction.1,
      Bool.and_eq_true, decide_eq_true_iff, and_assoc]
  · intro haccepted
    rw [(set_statuses.1 haccepted).1, hresets, hstatus]
    rfl

theorem challengeBytes_iff (random : Nat → BitVec 128) (keyLen : Nat) :
    ((List.range ((keyLen + 15) / 16)).map random).flatMap rowBytes = challengeBytes random keyLen ↔
      16 ∣ keyLen := by
  have hlength : (((List.range ((keyLen + 15) / 16)).map random).flatMap rowBytes).length =
      (keyLen + 15) / 16 * 16 := by
    simp [List.length_flatMap, rowBytes, List.map_const', Function.comp_def]
  rw [challengeBytes, eq_comm, List.take_eq_self_iff, hlength]
  omega

/-! ## The counter of the result table -/

theorem rowPlace_le {rowNumber : BitVec 8} {i j : Nat} {xs : List RowEntry}
    (hplace : rowPlace rowNumber i xs = .behind j) : j ≤ i + xs.length := by
  induction xs generalizing i with
  | nil =>
      cases hplace
      exact Nat.zero_le _
  | cons le rest ih =>
      unfold rowPlace at hplace
      split at hplace
      · cases hplace
      split at hplace
      · cases hplace
        exact Nat.le_add_right _ _
      split at hplace
      · cases hplace
        exact Nat.le_refl _
      split at hplace
      · cases hplace
        rw [List.length_cons]
        omega
      · have hle := ih hplace
        simp only [List.length_cons] at hle ⊢
        omega

def RowTable.Counted {α : Type} (table : RowTable α) : Prop :=
  table.entriesNum = table.list.length

theorem rowEntrySet_counted {alloc : Bool} {table table' : RowTable RowEntry} {entry : RowEntry}
    (h : table.Counted) (hset : rowEntrySet alloc table entry = some table') : table'.Counted := by
  rw [rowEntrySet] at hset
  split at hset
  · cases hset
    exact rfl
  · cases hplace : rowPlace entry.rowNumber 0 table.list with
    | same i =>
        rw [hplace] at hset
        cases hset
        rw [RowTable.Counted, List.length_set]
        exact h
    | behind i =>
        have hle := rowPlace_le hplace
        rw [hplace, RowTable.place] at hset
        split at hset
        · cases hset
          rw [RowTable.Counted, List.length_insertIdx_of_le_length (by omega), h]
        · cases hset

theorem set_counted (h : me.oltAuthResult.Counted) : (me.set env msg).1.oltAuthResult.Counted := by
  have hresult : ∀ first : EnhSecCtrl, first.oltAuthResult.Counted →
      (EnhSecCtrl.updateResult env first msg).1.oltAuthResult.Counted := by
    intro first hfirst
    rw [EnhSecCtrl.updateResult]
    split
    · rename_i entry _
      obtain ⟨stored, _, _, hset⟩ := @oltAuthResultTblEntrySet_eq env first entry
      rw [hset]
      cases hrow : rowEntrySet env.rowAlloc first.oltAuthResult entry with
      | none => exact hfirst
      | some table => exact rowEntrySet_counted hfirst hrow
    · exact hfirst
  have hstatus : ∀ (status : Bool) (first : EnhSecCtrl), first.oltAuthResult.Counted →
      (EnhSecCtrl.oltResultStatusUpdateAction first status).1.oltAuthResult.Counted := by
    intro status first hfirst
    rw [EnhSecCtrl.oltResultStatusUpdateAction]
    split
    · exact hfirst
    split
    · exact hfirst
    split
    · exact hfirst
    · exact rfl
  have hkey : ∀ first : EnhSecCtrl, first.oltAuthResult.Counted →
      (EnhSecCtrl.updateKey env first msg).1.oltAuthResult.Counted := by
    intro first hfirst
    rw [EnhSecCtrl.updateKey]
    split
    · rw [EnhSecCtrl.broadcastKeyTblEntrySet]
      repeat' split
      all_goals exact hfirst
    · exact hfirst
  have hchl : (EnhSecCtrl.updateChl env me msg (msg.fetch me.data)).1.1.oltAuthResult.Counted := by
    cases hresets : msg.resetsChl with
    | true =>
        rw [(updateChl_of_resets hresets _).oltAuthResult]
        exact h
    | false =>
        rw [updateChl_of_not_resets hresets]
        exact h
  have hparts : (setParts env me msg).1.oltAuthResult.Counted := by
    rw [setParts]
    refine returnIfError_fst (Q := fun last : EnhSecCtrl => last.oltAuthResult.Counted) hchl ?_
    intro first hfirst
    refine returnIfError_fst (Q := fun last : EnhSecCtrl => last.oltAuthResult.Counted) ?_ ?_
    · rw [(oltChlStatusUpdateAction_part _).oltAuthResult]
      exact hfirst
    · intro second hsecond
      refine returnIfError_fst (Q := fun last : EnhSecCtrl => last.oltAuthResult.Counted)
        (hresult second hsecond) fun third hthird => ?_
      exact returnIfError_fst (Q := fun last : EnhSecCtrl => last.oltAuthResult.Counted)
        (hstatus _ third hthird) hkey
  cases hupdated : msg.isDataUpdated me.data with
  | false =>
      rw [(@set_of_not_updated env me msg false hupdated).1]
      exact h
  | true =>
      cases hvalid : msg.isValid with
      | false =>
          rw [(@set_of_not_valid env me msg false hupdated hvalid).1]
          exact h
      | true =>
          rw [set_eq hupdated hvalid]
          cases (setParts env me msg).2 <;> exact hparts

end Handlers

/-! ## Runs -/

/-- What holds between SETs. -/
structure HandshakeSound (state : EnhSecCtrl × Bool) : Prop where
  counted : state.1.oltAuthResult.Counted
  disabled : state.2 = false

/-- One SET. -/
theorem HandshakeSound.kept_iff {before : EnhSecCtrl × Bool} (h : HandshakeSound before)
    (event : EnhSecEnv × EnhSecSet) :
    HandshakeKept before event
        ((before.1.set event.1 event.2).1, before.1.setEnabled event.1 event.2 before.2) ↔
      HandshakeMeets before.1 event := by
  have hempty : before.1.oltAuthResult.list = [] → before.1.oltAuthResult.entriesNum = 0 := by
    intro hnil
    rw [h.counted, hnil]
    rfl
  have hresult := @resultReset_iff event.1 before.1 event.2 hempty
  constructor
  · intro hkept
    have hrows : ∀ random, before.1.Reaches event.1 event.2 random →
        before.1.data.chlRows ≤ event.1.onuRows := by
      intro random hreaches
      have henabled := (@set_of_reaches _ _ _ before.2 _ hreaches).2.1
      have hflag := hkept.disabled
      simpa using henabled.symm.trans hflag
    refine ⟨hresult.mp hkept.resultReset, hrows, ?_, ?_⟩
    · intro random hreaches hrefused
      have ⟨honu, _, hok, _⟩ := @set_of_reaches _ _ _ before.2 _ hreaches
      rw [Nat.min_eq_left (hrows random hreaches)] at honu
      apply Classical.byContradiction
      intro hne
      have hchanged := hkept.onuChanges (honu ▸ hne)
      exact hrefused (hok.mp hchanged.1).2
    · intro random hreaches havc hlater
      have ⟨honu, _, hok, htrue⟩ := @set_of_reaches _ _ _ before.2 _ hreaches
      rw [Nat.min_eq_left (hrows random hreaches)] at honu
      have haccepted := hok.mpr ⟨hrows random hreaches, havc, hlater⟩
      have ⟨hupdated, _, hstatus, _, _, _, _, hrandom⟩ := hreaches
      have ⟨random', hrandom', hbytes⟩ :=
        hkept.onuChallenge haccepted hupdated hstatus (htrue haccepted)
      rw [hrandom] at hrandom'
      obtain rfl := Option.some.inj hrandom'
      rw [honu] at hbytes
      exact (challengeBytes_iff random _).mp hbytes
  · intro hmeets
    by_cases hreaches : ∃ random, before.1.Reaches event.1 event.2 random
    · have ⟨random, hreaches⟩ := hreaches
      have ⟨honu, henabled, hok, htrue⟩ := @set_of_reaches _ _ _ before.2 _ hreaches
      have hrows := hmeets.rows random hreaches
      have ⟨_, _, hstatus, _, _, _, _, hrandom⟩ := hreaches
      rw [Nat.min_eq_left hrows] at honu
      exact
        { chlReset := fun haccepted hresets => by
            rw [(set_statuses.1 haccepted).1, hresets]
            rfl
          chlStays := set_chlStays
          resultReset := hresult.mpr hmeets.result
          resultStays := set_resultStays
          onuChanges := fun hne => by
            have haccepted : (before.1.set event.1 event.2).2 = true := by
              apply Classical.byContradiction
              intro hrefused
              apply hne
              rw [honu]
              apply hmeets.sent random hreaches
              exact fun h => hrefused (hok.mpr ⟨hrows, h⟩)
            exact ⟨haccepted, hstatus, htrue haccepted⟩
          onuChallenge := fun haccepted _ _ _ => by
            have ⟨_, havc, hlater⟩ := hok.mp haccepted
            refine ⟨random, hrandom, ?_⟩
            rw [honu]
            exact (challengeBytes_iff random _).mpr (hmeets.whole random hreaches havc hlater)
          disabled := by
            rw [henabled, decide_eq_true hrows]
            rfl }
    · have hnot : ∀ random, ¬before.1.Reaches event.1 event.2 random :=
        fun random h => hreaches ⟨random, h⟩
      have ⟨honu, henabled, hnever⟩ := @set_of_not_reaches _ _ _ before.2 hnot
      exact
        { chlReset := fun haccepted hresets => by
            rw [(set_statuses.1 haccepted).1, hresets]
            rfl
          chlStays := set_chlStays
          resultReset := hresult.mpr hmeets.result
          resultStays := set_resultStays
          onuChanges := fun hne => absurd honu hne
          onuChallenge := fun haccepted hupdated hstatus htrue =>
            absurd ⟨haccepted, hupdated, hstatus, htrue⟩ hnever
          disabled := henabled.trans h.disabled }

/-- In every run of SETs from any data with empty tables the statuses, the challenge of the ONU and
its flag are right, if and only if every SET meets the condition. -/
theorem handshake_iff (data : EnhSecData) (run : List (EnhSecEnv × EnhSecSet)) :
    Along handshakeStep HandshakeKept (.init data, false) run ↔
      Along handshakeStep (fun before event _ => HandshakeMeets before.1 event)
        (.init data, false) run := by
  have hstart : HandshakeSound (.init data, false) := ⟨rfl, rfl⟩
  refine along_iff_guard ?_ hstart run
  intro before event after hbefore hstep
  obtain rfl := Option.some.inj hstep
  have hkept := hbefore.kept_iff event
  refine ⟨hkept, fun hmeets => ?_⟩
  exact ⟨set_counted hbefore.counted, (hkept.mpr hmeets).disabled⟩

/-- A result of one row is complete, and another row follows. -/
def resultRun : List (EnhSecEnv × EnhSecSet) :=
  [(fullEnv, ⟨some (.oltCryptoCaps 1), none, none⟩),
    (fullEnv, ⟨some (.oltAuthResultTable ⟨1, 10⟩), none, none⟩),
    (fullEnv, ⟨none, none, some 1⟩),
    (fullEnv, ⟨some (.oltAuthResultTable ⟨1, 20⟩), none, none⟩)]

def refusedRun : List (EnhSecEnv × EnhSecSet) :=
  [(fullEnv, ⟨some (.oltCryptoCaps 1), none, none⟩),
    ({ fullEnv with onuRows := 0 }, ⟨none, some 1, none⟩)]

/-- The SET commits the old result status over the one that the row has set back, and the update
of the table of the ONU stays enabled. -/
theorem handshake_not_kept :
    ¬Along handshakeStep HandshakeKept (.init noKey, false) resultRun ∧
      ¬Along handshakeStep HandshakeKept (.init noKey, false) refusedRun := by
  constructor
  · intro hrun
    have hreset := hrun.2.2.2.1.resultReset
      ⟨by decide, fun h => absurd h (by decide), rfl, rfl, ⟨1, 20⟩, rfl, by decide⟩
    revert hreset
    decide
  · intro hrun
    have hdisabled := hrun.2.1.disabled
    revert hdisabled
    decide

end FalconGpon.Omci
