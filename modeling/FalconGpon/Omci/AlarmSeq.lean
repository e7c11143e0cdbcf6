/-
# Numbering the alarm notifications

`me_alarm_set` reads the alarm sequence number, counts it up and writes it back in two
sections under the context lock, and `alarm_send` reads it again in a third one; the
notification is handed over in a fourth. Threads that report alarms of different entities
do this at the same time, and GET_ALL_ALARMS resets the number. The notifications are
numbered consecutively exactly in the runs in which no thread counts up a number that has
changed since it was read, or has been written and not read again, none is handed over
before an earlier one, and there is none under way at a reset (`alarmSeq_inOrder_iff`).
-/

import FalconGpon.Lib.Transition
import FalconGpon.Omci.Pm

namespace FalconGpon.Omci

open FalconGpon.Lib

variable {ι μ : Type}

/-- The counting in `me_alarm_set`. -/
def alarmSeqNext (alarmSeqNum : Byte) : Byte :=
  if alarmSeqNum = 255 then 1 else alarmSeqNum + 1

/-- `struct omci_msg_alarm`, as far as `alarm_send` fills it in. -/
structure AlarmNotification (μ : Type) where
  me : μ
  alarmBitmap : AlarmBitmap
  seqNum : Byte
deriving DecidableEq

/-- What is handed to the transmitter, and the resets; with each notification the bitmap that
was current when its number was drawn. -/
inductive AlarmSeqLog (μ : Type)
  | getAllAlarms
  | sent (msg : AlarmNotification μ) (current : AlarmBitmap)
deriving DecidableEq

/-- Where a thread is in `me_alarm_set`. -/
inductive AlarmThread (μ : Type)
  | idle
  /-- It has changed the bitmap. -/
  | changed (me : μ)
  /-- It has read the number. -/
  | read (me : μ) (alarmSeqNum : Byte)
  /-- It has written the next one. -/
  | written (me : μ) (current : AlarmBitmap)
  /-- It has made the notification. -/
  | drawn (me : μ)
deriving DecidableEq

/-- A notification that is made and not handed over. -/
structure AlarmDrawn (ι μ : Type) where
  thread : ι
  msg : AlarmNotification μ
  current : AlarmBitmap
deriving DecidableEq

def AlarmDrawn.log (drawn : AlarmDrawn ι μ) : AlarmSeqLog μ := .sent drawn.msg drawn.current

/-- The alarms of the entities and the number. -/
structure AlarmSeqState (ι μ : Type) where
  alarmBitmap : μ → AlarmBitmap
  alarmSeqNum : Byte
  /-- The thread that has locked the entity with `me_lock`. -/
  holder : μ → Option ι
  thread : ι → AlarmThread μ
  /-- The latest is first, here and in `log`. -/
  drawn : List (AlarmDrawn ι μ)
  log : List (AlarmSeqLog μ)

/-- What the threads do under one lock. -/
inductive AlarmSeqEvent (ι μ : Type)
  /-- `me_alarm_set` up to the bitmap; `silent` if ARC is enabled or cannot be read, or the
  class is one of performance monitoring. -/
  | change (thread : ι) (me : μ) (alarm : Nat) (active silent : Bool)
  | read (thread : ι)
  | write (thread : ι)
  /-- `alarm_send` up to `omci_msg_send`. -/
  | draw (thread : ι)
  | send (thread : ι)
  /-- The reset in `get_all_alarms_action_handle`. -/
  | getAllAlarms
deriving DecidableEq

section Step

variable [DecidableEq ι] [DecidableEq μ]

namespace AlarmSeqState

def setThread (state : AlarmSeqState ι μ) (thread : ι) (next : AlarmThread μ) : AlarmSeqState ι μ :=
  { state with thread := Function.update state.thread thread next }

/-- `me_alarm_set` up to the bitmap. -/
def change (state : AlarmSeqState ι μ) (thread : ι) (me : μ) (alarm : Nat)
    (active silent : Bool) : AlarmSeqState ι μ :=
  let bitmap := state.alarmBitmap me
  if omciAlarmsNum - 1 < alarm ∨ (bitmap &&& alarmBit alarm != 0) = active then state
  else
    let changed :=
      { state with
        alarmBitmap := Function.update state.alarmBitmap me (alarmSet bitmap alarm active).2 }
    if silent then changed
    else { changed.setThread thread (.changed me) with
      holder := Function.update state.holder me (some thread) }

end AlarmSeqState

/-- A step of one of the threads. -/
def alarmSeqStep (state : AlarmSeqState ι μ) : AlarmSeqEvent ι μ → Option (AlarmSeqState ι μ)
  | .change thread me alarm active silent =>
      if state.thread thread = .idle ∧ state.holder me = none then
        some (state.change thread me alarm active silent)
      else none
  | .read thread =>
      match state.thread thread with
      | .changed me => some (state.setThread thread (.read me state.alarmSeqNum))
      | _ => none
  | .write thread =>
      match state.thread thread with
      | .read me alarmSeqNum =>
          some { state.setThread thread (.written me (state.alarmBitmap me)) with
            alarmSeqNum := alarmSeqNext alarmSeqNum }
      | _ => none
  | .draw thread =>
      match state.thread thread with
      | .written me current =>
          some { state.setThread thread (.drawn me) with
            drawn := ⟨thread, ⟨me, state.alarmBitmap me, state.alarmSeqNum⟩, current⟩ ::
              state.drawn }
      | _ => none
  | .send thread =>
      match state.thread thread, state.drawn.find? (·.thread = thread) with
      | .drawn me, some drawn =>
          some { state.setThread thread .idle with
            holder := Function.update state.holder me none
            drawn := state.drawn.eraseP (·.thread = thread)
            log := drawn.log :: state.log }
      | _, _ => none
  | .getAllAlarms =>
      -- the MIB lock, which keeps this out of `me_alarm_set`, is not modelled
      some { state with alarmSeqNum := 0, log := .getAllAlarms :: state.log }

end Step

/-- The start; nothing is under way. -/
def alarmSeqInit (alarmBitmap : μ → AlarmBitmap) : AlarmSeqState ι μ where
  alarmBitmap := alarmBitmap
  alarmSeqNum := 0
  holder _ := none
  thread _ := .idle
  drawn := []
  log := []

/-! ## Numbers in order -/

section Numbers

def AlarmSeqLog.number : AlarmSeqLog μ → Byte
  | .getAllAlarms => 0
  | .sent msg _ => msg.seqNum

def latestNumber : List (AlarmSeqLog μ) → Byte
  | [] => 0
  | entry :: _ => entry.number

/-- Each notification carries the number after the one before it, and 1 after a reset. -/
def Consecutive : List (AlarmSeqLog μ) → Prop
  | [] => True
  | .getAllAlarms :: rest => Consecutive rest
  | .sent msg _ :: rest => msg.seqNum = alarmSeqNext (latestNumber rest) ∧ Consecutive rest

instance Consecutive.decidable : ∀ log : List (AlarmSeqLog μ), Decidable (Consecutive log)
  | [] => isTrue trivial
  | .getAllAlarms :: rest => Consecutive.decidable rest
  | .sent _ _ :: rest =>
      have : Decidable (Consecutive rest) := Consecutive.decidable rest
      inferInstanceAs (Decidable (_ ∧ _))

variable {log newer : List (AlarmSeqLog μ)}

theorem alarmSeqNext_ne (alarmSeqNum : Byte) : alarmSeqNext alarmSeqNum ≠ alarmSeqNum := by
  revert alarmSeqNum
  decide

theorem alarmSeqNext_ne_zero (alarmSeqNum : Byte) : alarmSeqNext alarmSeqNum ≠ 0 := by
  revert alarmSeqNum
  decide

theorem Consecutive.older (h : Consecutive (newer ++ log)) : Consecutive log := by
  induction newer with
  | nil => exact h
  | cons entry newer ih =>
      cases entry with
      | getAllAlarms => exact ih h
      | sent msg current => exact ih h.2

theorem Consecutive.latest_ne_zero {drawn : AlarmDrawn ι μ} {older : List (AlarmSeqLog μ)}
    (h : Consecutive (drawn.log :: older)) : latestNumber (drawn.log :: older) ≠ 0 := by
  have hseq : drawn.msg.seqNum = alarmSeqNext (latestNumber older) := h.1
  change drawn.msg.seqNum ≠ 0
  rw [hseq]
  exact alarmSeqNext_ne_zero _

theorem not_consecutive_of_overtaken {older : List (AlarmSeqLog μ)} {first drawn : AlarmDrawn ι μ}
    {before after : List (AlarmSeqLog μ)} (hbefore : Consecutive (before ++ first.log :: older)) :
    ¬ Consecutive (after ++ first.log :: drawn.log :: older) := by
  intro hafter
  have hfirst : first.msg.seqNum = alarmSeqNext (latestNumber older) := hbefore.older.1
  have hlate : first.msg.seqNum = alarmSeqNext drawn.msg.seqNum := hafter.older.1
  have hdrawn : drawn.msg.seqNum = alarmSeqNext (latestNumber older) := hafter.older.2.1
  have hsame : alarmSeqNext drawn.msg.seqNum = drawn.msg.seqNum :=
    hlate.symm.trans (hfirst.trans hdrawn.symm)
  exact alarmSeqNext_ne _ hsame

end Numbers

def AlarmThread.isWritten : AlarmThread μ → Bool
  | .written _ _ => true
  | _ => false

def AlarmThread.me : AlarmThread μ → Option μ
  | .idle => none
  | .changed me | .read me _ | .written me _ | .drawn me => some me

namespace AlarmSeqState

def numbered (state : AlarmSeqState ι μ) : List (AlarmSeqLog μ) :=
  state.drawn.map AlarmDrawn.log ++ state.log

/-- The notifications are numbered consecutively, those handed over and those still to be, and
the counter stands at the latest number or at one that is being drawn. -/
structure InOrder (state : AlarmSeqState ι μ) : Prop where
  consecutive : Consecutive state.numbered
  counter : (∀ thread, (state.thread thread).isWritten = false) ∧
      state.alarmSeqNum = latestNumber state.numbered ∨
    ∃ thread, (∀ other, (state.thread other).isWritten = true ↔ other = thread) ∧
      state.alarmSeqNum = alarmSeqNext (latestNumber state.numbered)

/-- A thread counts up a number that has changed or is being drawn, a notification is handed
over before an earlier one, or a reset comes while one is under way. -/
def Disturbs (state : AlarmSeqState ι μ) : AlarmSeqEvent ι μ → Prop
  | .write thread =>
      ∃ me alarmSeqNum, state.thread thread = .read me alarmSeqNum ∧
        (alarmSeqNext alarmSeqNum ≠ alarmSeqNext state.alarmSeqNum ∨
          ∃ other, (state.thread other).isWritten = true)
  | .send thread => ∃ first ∈ state.drawn.getLast?, first.thread ≠ thread
  | .getAllAlarms => state.drawn ≠ [] ∨ ∃ other, (state.thread other).isWritten = true
  | _ => False

/-- What holds in every run: who reports an alarm holds the lock of its entity, so that the
bitmap stays as it was when the number was drawn. -/
structure Held (state : AlarmSeqState ι μ) : Prop where
  holder : ∀ thread me, (state.thread thread).me = some me → state.holder me = some thread
  current : ∀ thread me current, state.thread thread = .written me current →
    current = state.alarmBitmap me
  bitmaps : ∀ msg current, AlarmSeqLog.sent msg current ∈ state.numbered →
    msg.alarmBitmap = current
  drawn : ∀ drawn ∈ state.drawn, ∃ me, state.thread drawn.thread = .drawn me
  nodup : (state.drawn.map AlarmDrawn.thread).Nodup

/-! ## Runs -/

variable {state after : AlarmSeqState ι μ}

theorem InOrder.congr (h : state.InOrder) (hnumbered : after.numbered = state.numbered)
    (hcounter : after.alarmSeqNum = state.alarmSeqNum)
    (hwritten : ∀ thread, (after.thread thread).isWritten = (state.thread thread).isWritten) :
    after.InOrder := by
  refine ⟨?_, ?_⟩
  · rw [hnumbered]
    exact h.consecutive
  · simpa only [hnumbered, hcounter, hwritten] using h.counter

variable [DecidableEq ι]

variable {thread : ι}

theorem isWritten_setThread {next : AlarmThread μ}
    (hbefore : (state.thread thread).isWritten = false) (hnext : next.isWritten = false)
    (other : ι) : ((state.setThread thread next).thread other).isWritten =
      (state.thread other).isWritten := by
  by_cases hother : other = thread
  · subst hother
    simp [setThread, hbefore, hnext]
  · simp [setThread, Function.update_of_ne hother]

theorem isWritten_written {me : μ} {current : AlarmBitmap} {other : ι} :
    ((state.setThread thread (.written me current)).thread other).isWritten = true ↔
      other = thread ∨ (state.thread other).isWritten = true := by
  by_cases hother : other = thread
  · subst hother
    simp [setThread, AlarmThread.isWritten]
  · simp [setThread, hother]

variable [DecidableEq μ]

/-- The counter is right after a write exactly if it had not moved on and no other number is
being drawn. -/
theorem inOrder_write {me : μ} {alarmSeqNum : Byte} (h : state.InOrder)
    (hthread : state.thread thread = .read me alarmSeqNum)
    (hstep : alarmSeqStep state (.write thread) = some after) :
    after.InOrder ↔ ¬ state.Disturbs (.write thread) := by
  simp only [alarmSeqStep, hthread] at hstep
  obtain rfl := Option.some.inj hstep
  have hself : (state.thread thread).isWritten = false := by rw [hthread]; rfl
  have hdisturbs : state.Disturbs (.write thread) ↔
      alarmSeqNext alarmSeqNum ≠ alarmSeqNext state.alarmSeqNum ∨
        ∃ other, (state.thread other).isWritten = true := by
    constructor
    · rintro ⟨_, _, hread, hdisturbed⟩
      rw [hthread] at hread
      obtain ⟨rfl, rfl⟩ := AlarmThread.read.inj hread
      exact hdisturbed
    · exact fun hdisturbed => ⟨me, alarmSeqNum, hthread, hdisturbed⟩
  rw [hdisturbs, not_or, not_not, not_exists]
  constructor
  · rintro ⟨_, ⟨hnone, _⟩ | ⟨writer, hwriter, hcounter⟩⟩
    · exact absurd (hnone thread) (by simp [setThread, AlarmThread.isWritten])
    · -- the writer is this thread, so that no other was before it
      have hwritten : ∀ other, (state.thread other).isWritten = true → other = thread := by
        intro other hother
        have hsame := (hwriter other).mp (isWritten_written.mpr (.inr hother))
        have hthis := (hwriter thread).mp (isWritten_written.mpr (.inl rfl))
        exact hsame.trans hthis.symm
      have hclear : ∀ other, ¬ (state.thread other).isWritten = true := by
        intro other hother
        obtain rfl := hwritten other hother
        rw [hself] at hother
        cases hother
      refine ⟨?_, hclear⟩
      rcases h.counter with ⟨_, hlatest⟩ | ⟨other, hother, _⟩
      · rw [hlatest]
        exact hcounter
      · exact absurd ((hother other).mpr rfl) (hclear other)
  · rintro ⟨hsame, hclear⟩
    refine ⟨h.consecutive, .inr ⟨thread, fun other => ?_, ?_⟩⟩
    · rw [isWritten_written]
      exact or_iff_left (hclear other)
    · rcases h.counter with ⟨_, hlatest⟩ | ⟨other, hother, _⟩
      · rw [hlatest] at hsame
        exact hsame
      · exact absurd ((hother other).mpr rfl) (hclear other)

/-- Drawing a number keeps the order. -/
theorem inOrder_draw (h : state.InOrder)
    (hstep : alarmSeqStep state (.draw thread) = some after) : after.InOrder := by
  simp only [alarmSeqStep] at hstep
  split at hstep
  · rename_i me current hthread
    obtain rfl := Option.some.inj hstep
    have hself : (state.thread thread).isWritten = true := by rw [hthread]; rfl
    rcases h.counter with ⟨hnone, _⟩ | ⟨writer, hwriter, hcounter⟩
    · rw [hnone] at hself
      cases hself
    · obtain rfl := (hwriter thread).mp hself
      refine ⟨⟨hcounter, h.consecutive⟩, .inl ⟨fun other => ?_, rfl⟩⟩
      by_cases hother : other = thread
      · subst hother
        simp [setThread, AlarmThread.isWritten]
      · have hnot : ¬ (state.thread other).isWritten = true := fun hwritten =>
          hother ((hwriter other).mp hwritten)
        simpa [setThread, Function.update_of_ne hother] using hnot
  · cases hstep

/-- After a reset the counter is right exactly if nothing was under way. -/
theorem inOrder_getAllAlarms (h : state.InOrder)
    (hstep : alarmSeqStep state .getAllAlarms = some after) :
    after.InOrder ↔ ¬ state.Disturbs .getAllAlarms := by
  obtain rfl := Option.some.inj hstep
  rw [Disturbs, not_or, not_not, not_exists]
  constructor
  · rintro ⟨hconsecutive, hcounter⟩
    cases hdrawn : state.drawn with
    | nil =>
        refine ⟨rfl, ?_⟩
        rcases hcounter with ⟨hnone, _⟩ | ⟨_, _, hnext⟩
        · intro other hother
          rw [hnone] at hother
          cases hother
        · exact absurd hnext.symm (alarmSeqNext_ne_zero _)
    | cons first rest =>
        have hfirst : Consecutive (first.log ::
            (rest.map AlarmDrawn.log ++ .getAllAlarms :: state.log)) := by
          simpa only [numbered, hdrawn, List.map_cons, List.cons_append] using hconsecutive
        rcases hcounter with ⟨_, hlatest⟩ | ⟨_, _, hnext⟩
        · simp only [numbered, hdrawn, List.map_cons, List.cons_append] at hlatest
          exact absurd hlatest.symm hfirst.latest_ne_zero
        · exact absurd hnext.symm (alarmSeqNext_ne_zero _)
  · rintro ⟨hdrawn, hclear⟩
    have hnumbered : state.numbered = state.log := by simp [numbered, hdrawn]
    have hlog : Consecutive state.log := hnumbered ▸ h.consecutive
    refine ⟨?_, .inl ⟨fun other => by simpa using hclear other, ?_⟩⟩
    · simpa [numbered, hdrawn, Consecutive] using hlog
    · simp [numbered, hdrawn, latestNumber, AlarmSeqLog.number]

omit [DecidableEq μ] in
/-- A thread has made one notification. -/
theorem Held.split {drawn : AlarmDrawn ι μ} (h : state.Held)
    (hfind : state.drawn.find? (·.thread = thread) = some drawn) :
    ∃ newer older, state.drawn = newer ++ drawn :: older ∧
      state.drawn.eraseP (·.thread = thread) = newer ++ older ∧ drawn.thread = thread ∧
        ∀ waiting ∈ newer ++ older, waiting.thread ≠ thread := by
  obtain ⟨hdrawn, newer, older, hsplit, hnewer⟩ := List.find?_eq_some_iff_append.mp hfind
  have hself : drawn.thread = thread := of_decide_eq_true hdrawn
  have hnot : ∀ other ∈ newer, ¬ decide (other.thread = thread) = true :=
    fun other hother => by simpa using hnewer other hother
  have herase : state.drawn.eraseP (·.thread = thread) = newer ++ older := by
    rw [hsplit, List.eraseP_append_right _ hnot]
    exact congrArg (newer ++ ·) (List.eraseP_cons_of_pos hdrawn)
  have hnodup := h.nodup
  rw [hsplit, List.map_append, List.map_cons, List.nodup_middle, List.nodup_cons] at hnodup
  refine ⟨newer, older, hsplit, herase, hself, ?_⟩
  rintro waiting hwaiting hsame
  apply hnodup.1
  rw [hself, ← hsame, ← List.map_append]
  exact List.mem_map_of_mem hwaiting

/-- Handing a notification over keeps the order exactly if no earlier one is waiting. -/
theorem inOrder_send (hheld : state.Held) (h : state.InOrder)
    (hstep : alarmSeqStep state (.send thread) = some after) :
    after.InOrder ↔ ¬ state.Disturbs (.send thread) := by
  simp only [alarmSeqStep] at hstep
  split at hstep
  · rename_i me drawn hthread hfind
    obtain rfl := Option.some.inj hstep
    obtain ⟨newer, older, hsplit, herase, hself, hothers⟩ := hheld.split hfind
    rcases List.eq_nil_or_concat older with hlast | ⟨middle, first, hlast⟩
    · -- the earliest one goes from the one list to the other
      rw [hlast] at hsplit herase
      have hnumbered : (newer ++ []).map AlarmDrawn.log ++ drawn.log :: state.log =
          state.numbered := by simp [numbered, hsplit]
      have hnot : ¬ state.Disturbs (.send thread) := by
        rintro ⟨first, hfirst, hother⟩
        rw [hsplit, List.getLast?_append_of_ne_nil _ (List.cons_ne_nil _ _)] at hfirst
        obtain rfl := Option.some.inj hfirst
        exact hother hself
      have hfree : (state.thread thread).isWritten = false := by rw [hthread]; rfl
      refine iff_of_true (h.congr ?_ rfl ?_) hnot
      · rw [← hnumbered, ← herase]
        rfl
      · exact @isWritten_setThread _ _ state _ thread .idle hfree rfl
    · have hbefore : state.numbered = (newer ++ drawn :: middle).map AlarmDrawn.log ++
          first.log :: state.log := by simp [numbered, hsplit, hlast]
      have hafter : (state.drawn.eraseP (·.thread = thread)).map AlarmDrawn.log ++
          drawn.log :: state.log = (newer ++ middle).map AlarmDrawn.log ++
            first.log :: drawn.log :: state.log := by simp [herase, hlast]
      have hdisturbs : state.Disturbs (.send thread) := by
        refine ⟨first, ?_, ?_⟩
        · rw [hsplit, hlast, List.concat_eq_append, ← List.cons_append, ← List.append_assoc,
            List.getLast?_append_of_ne_nil _ (List.cons_ne_nil _ _)]
          rfl
        · exact hothers first (by simp [hlast])
      refine iff_of_false ?_ (not_not_intro hdisturbs)
      intro hkept
      have hbroken := @not_consecutive_of_overtaken _ _ state.log first drawn _
        ((newer ++ middle).map AlarmDrawn.log) (hbefore ▸ h.consecutive)
      rw [← hafter] at hbroken
      exact hbroken hkept.consecutive
  · cases hstep

/-- A step keeps the order exactly if it does not disturb it. -/
theorem inOrder_step {event : AlarmSeqEvent ι μ} (hheld : state.Held) (h : state.InOrder)
    (hstep : alarmSeqStep state event = some after) : after.InOrder ↔ ¬ state.Disturbs event := by
  cases event with
  | change thread me alarm active silent =>
      obtain ⟨⟨hidle, _⟩, hafter⟩ := Option.ite_none_right_eq_some.mp hstep
      obtain rfl := Option.some.inj hafter
      refine iff_of_true (h.congr ?_ ?_ ?_) id
      · unfold change
        dsimp only
        split
        · rfl
        · split <;> rfl
      · unfold change
        dsimp only
        split
        · rfl
        · split <;> rfl
      · unfold change
        dsimp only
        split
        · exact fun _ => rfl
        · split
          · exact fun _ => rfl
          · exact isWritten_setThread (by rw [hidle]; rfl) rfl
  | read thread =>
      simp only [alarmSeqStep] at hstep
      split at hstep
      · rename_i me hthread
        obtain rfl := Option.some.inj hstep
        have hfree : (state.thread thread).isWritten = false := by rw [hthread]; rfl
        exact iff_of_true (h.congr rfl rfl (isWritten_setThread hfree rfl)) id
      · cases hstep
  | write thread =>
      cases hthread : state.thread thread with
      | read me alarmSeqNum => exact inOrder_write h hthread hstep
      | idle | changed | written | drawn => simp [alarmSeqStep, hthread] at hstep
  | draw thread => exact iff_of_true (inOrder_draw h hstep) id
  | send thread => exact inOrder_send hheld h hstep
  | getAllAlarms => exact inOrder_getAllAlarms h hstep

/-! The locks. -/

omit [DecidableEq μ] in
/-- A thread that moves on keeps its entity, and draws no number. -/
theorem Held.setThread {me : μ} {next : AlarmThread μ} (h : state.Held)
    (hme : (state.thread thread).me = some me) (hnext : next.me = some me)
    (hdrawn : ∀ drawn, state.thread thread ≠ .drawn drawn)
    (hcurrent : ∀ current, next = .written me current → current = state.alarmBitmap me) :
    (state.setThread thread next).Held := by
  refine ⟨?_, ?_, h.bitmaps, ?_, h.nodup⟩
  · intro other entity hentity
    by_cases hother : other = thread
    · subst hother
      simp only [AlarmSeqState.setThread, Function.update_self] at hentity
      obtain rfl := Option.some.inj (hnext.symm.trans hentity)
      exact h.holder other me hme
    · simp only [AlarmSeqState.setThread, Function.update_of_ne hother] at hentity
      exact h.holder other entity hentity
  · intro other entity current hwritten
    by_cases hother : other = thread
    · subst hother
      simp only [AlarmSeqState.setThread, Function.update_self] at hwritten
      rw [hwritten] at hnext
      obtain rfl := Option.some.inj hnext
      exact hcurrent current hwritten
    · simp only [AlarmSeqState.setThread, Function.update_of_ne hother] at hwritten
      exact h.current other entity current hwritten
  · intro drawn hmem
    obtain ⟨entity, hentity⟩ := h.drawn drawn hmem
    have hother : drawn.thread ≠ thread := by
      rintro rfl
      exact hdrawn entity hentity
    exact ⟨entity, by simpa [AlarmSeqState.setThread, Function.update_of_ne hother] using hentity⟩

/-- Changing the bitmap of an entity that no thread has locked. -/
theorem Held.change {me : μ} {alarm : Nat} {active silent : Bool} (h : state.Held)
    (hidle : state.thread thread = .idle) (hfree : state.holder me = none) :
    (state.change thread me alarm active silent).Held := by
  have hcurrent : ∀ other entity current, state.thread other = .written entity current →
      current = Function.update state.alarmBitmap me
        (alarmSet (state.alarmBitmap me) alarm active).2 entity := by
    intro other entity current hwritten
    have hother : entity ≠ me := by
      rintro rfl
      have hheld := h.holder other entity (by rw [hwritten]; rfl)
      rw [hfree] at hheld
      cases hheld
    rw [Function.update_of_ne hother]
    exact h.current other entity current hwritten
  unfold AlarmSeqState.change
  dsimp only
  split
  · exact h
  · split
    · exact ⟨h.holder, hcurrent, h.bitmaps, h.drawn, h.nodup⟩
    · refine ⟨?_, ?_, h.bitmaps, ?_, h.nodup⟩
      · intro other entity hentity
        by_cases hother : other = thread
        · subst hother
          simp only [AlarmSeqState.setThread, Function.update_self] at hentity
          obtain rfl := Option.some.inj hentity
          exact Function.update_self _ _ _
        · simp only [AlarmSeqState.setThread, Function.update_of_ne hother] at hentity
          have hheld := h.holder other entity hentity
          have hne : entity ≠ me := by
            rintro rfl
            rw [hfree] at hheld
            cases hheld
          simpa only [Function.update_of_ne hne] using hheld
      · intro other entity current hwritten
        by_cases hother : other = thread
        · subst hother
          simp only [AlarmSeqState.setThread, Function.update_self] at hwritten
          cases hwritten
        · simp only [AlarmSeqState.setThread, Function.update_of_ne hother] at hwritten
          exact hcurrent other entity current hwritten
      · intro drawn hmem
        obtain ⟨entity, hentity⟩ := h.drawn drawn hmem
        have hother : drawn.thread ≠ thread := by
          rintro hsame
          rw [hsame, hidle] at hentity
          cases hentity
        exact ⟨entity, by
          simpa [AlarmSeqState.setThread, Function.update_of_ne hother] using hentity⟩

/-- A notification takes the bitmap that its entity has kept since the number was drawn. -/
theorem Held.draw {me : μ} {current : AlarmBitmap} (h : state.Held)
    (hthread : state.thread thread = .written me current)
    (hstep : alarmSeqStep state (.draw thread) = some after) : after.Held := by
  simp only [alarmSeqStep, hthread] at hstep
  obtain rfl := Option.some.inj hstep
  have hmoved : (state.setThread thread (.drawn me)).Held :=
    h.setThread (by rw [hthread]; rfl) rfl (by simp [hthread]) nofun
  refine ⟨hmoved.holder, hmoved.current, ?_, ?_, ?_⟩
  · intro msg kept hmem
    rcases List.mem_cons.mp hmem with hnew | hold
    · obtain ⟨rfl, rfl⟩ := AlarmSeqLog.sent.inj hnew
      exact (h.current thread me _ hthread).symm
    · exact h.bitmaps msg kept hold
  · intro drawn hmem
    rcases List.mem_cons.mp hmem with rfl | hold
    · exact ⟨me, Function.update_self _ _ _⟩
    · exact hmoved.drawn drawn hold
  · refine List.nodup_cons.mpr ⟨?_, h.nodup⟩
    intro hmem
    obtain ⟨drawn, hdrawn, hsame⟩ := List.mem_map.mp hmem
    obtain ⟨entity, hentity⟩ := h.drawn drawn hdrawn
    rw [hsame, hthread] at hentity
    cases hentity

/-- The lock is given back when the notification is handed over. -/
theorem Held.send (h : state.Held)
    (hstep : alarmSeqStep state (.send thread) = some after) : after.Held := by
  simp only [alarmSeqStep] at hstep
  split at hstep
  · rename_i me drawn hthread hfind
    obtain rfl := Option.some.inj hstep
    have hown : state.holder me = some thread := h.holder thread me (by rw [hthread]; rfl)
    refine ⟨?_, ?_, ?_, ?_, ?_⟩
    · intro other entity hentity
      by_cases hother : other = thread
      · subst hother
        simp [AlarmSeqState.setThread, AlarmThread.me] at hentity
      · simp only [AlarmSeqState.setThread, Function.update_of_ne hother] at hentity
        have hheld := h.holder other entity hentity
        have hne : entity ≠ me := by
          rintro rfl
          exact hother (Option.some.inj (hheld.symm.trans hown))
        simpa only [Function.update_of_ne hne] using hheld
    · intro other entity current hwritten
      by_cases hother : other = thread
      · subst hother
        simp [AlarmSeqState.setThread] at hwritten
      · simp only [AlarmSeqState.setThread, Function.update_of_ne hother] at hwritten
        exact h.current other entity current hwritten
    · intro msg current hmem
      apply h.bitmaps msg current
      rcases List.mem_append.mp hmem with hpending | hsent
      · obtain ⟨waiting, hwaiting, hlog⟩ := List.mem_map.mp hpending
        exact List.mem_append_left _ (List.mem_map.mpr
          ⟨waiting, List.mem_of_mem_eraseP hwaiting, hlog⟩)
      · rcases List.mem_cons.mp hsent with hnew | hold
        · rw [hnew]
          exact List.mem_append_left _ (List.mem_map_of_mem (List.mem_of_find?_eq_some hfind))
        · exact List.mem_append_right _ hold
    · intro waiting hwaiting
      obtain ⟨newer, older, _, herase, _, hothers⟩ := h.split hfind
      have hother : waiting.thread ≠ thread := hothers waiting (herase ▸ hwaiting)
      obtain ⟨entity, hentity⟩ := h.drawn waiting (List.mem_of_mem_eraseP hwaiting)
      exact ⟨entity, by simpa [AlarmSeqState.setThread, Function.update_of_ne hother] using hentity⟩
    · exact h.nodup.sublist (List.Sublist.map _ List.eraseP_sublist)
  · cases hstep

/-- Every step keeps the locks. -/
theorem Held.step {event : AlarmSeqEvent ι μ} (h : state.Held)
    (hstep : alarmSeqStep state event = some after) : after.Held := by
  cases event with
  | change thread me alarm active silent =>
      obtain ⟨⟨hidle, hfree⟩, hafter⟩ := Option.ite_none_right_eq_some.mp hstep
      obtain rfl := Option.some.inj hafter
      exact h.change hidle hfree
  | read thread =>
      simp only [alarmSeqStep] at hstep
      split at hstep
      · rename_i me hthread
        obtain rfl := Option.some.inj hstep
        exact h.setThread (by rw [hthread]; rfl) rfl (by simp [hthread]) nofun
      · cases hstep
  | write thread =>
      simp only [alarmSeqStep] at hstep
      split at hstep
      · rename_i me alarmSeqNum hthread
        obtain rfl := Option.some.inj hstep
        have hmoved : (state.setThread thread (.written me (state.alarmBitmap me))).Held :=
          h.setThread (by rw [hthread]; rfl) rfl (by simp [hthread])
            fun current hsame => (AlarmThread.written.inj hsame).2.symm
        exact ⟨hmoved.holder, hmoved.current, hmoved.bitmaps, hmoved.drawn, hmoved.nodup⟩
      · cases hstep
  | draw thread =>
      cases hthread : state.thread thread with
      | written me current => exact h.draw hthread hstep
      | idle | changed | read | drawn => simp [alarmSeqStep, hthread] at hstep
  | send thread => exact h.send hstep
  | getAllAlarms =>
      obtain rfl := Option.some.inj hstep
      refine ⟨h.holder, h.current, ?_, h.drawn, h.nodup⟩
      intro msg current hmem
      apply h.bitmaps msg current
      rcases List.mem_append.mp hmem with hpending | hlog
      · exact List.mem_append_left _ hpending
      · rcases List.mem_cons.mp hlog with hreset | hold
        · cases hreset
        · exact List.mem_append_right _ hold

end AlarmSeqState

/-- What a run should keep to: the notifications handed over carry consecutive numbers,
beginning with 1 at the start and after a reset, and so do those still to be handed over; each
carries the bitmap that was current when its number was drawn. -/
structure AlarmsNumbered (state : AlarmSeqState ι μ) : Prop where
  sent : Consecutive state.log
  inOrder : state.InOrder
  bitmaps : ∀ msg current, AlarmSeqLog.sent msg current ∈ state.numbered →
    msg.alarmBitmap = current

/-- In every run, however the threads and GET_ALL_ALARMS take turns, the alarm notifications
are numbered consecutively and carry the right bitmaps if and only if no step disturbs the
order. -/
theorem alarmSeq_inOrder_iff [DecidableEq ι] [DecidableEq μ] (alarmBitmap : μ → AlarmBitmap)
    (events : List (AlarmSeqEvent ι μ)) :
    Along alarmSeqStep (fun _ _ after => AlarmsNumbered after) (alarmSeqInit alarmBitmap) events ↔
      Along alarmSeqStep (fun before event _ => ¬ before.Disturbs event)
        (alarmSeqInit alarmBitmap) events := by
  have hheld : (alarmSeqInit alarmBitmap : AlarmSeqState ι μ).Held :=
    ⟨nofun, nofun, nofun, nofun, List.nodup_nil⟩
  have hinOrder : (alarmSeqInit alarmBitmap : AlarmSeqState ι μ).InOrder :=
    ⟨trivial, .inl ⟨fun _ => rfl, rfl⟩⟩
  refine @along_iff_guard _ _ _ (fun state => state.Held ∧ state.InOrder) _ _ ?_ _
    ⟨hheld, hinOrder⟩ events
  rintro before event after ⟨hlocks, horder⟩ hstep
  have hafter := AlarmSeqState.inOrder_step hlocks horder hstep
  have hkept := hlocks.step hstep
  constructor
  · rw [← hafter]
    exact ⟨AlarmsNumbered.inOrder, fun h => ⟨h.consecutive.older, h, hkept.bitmaps⟩⟩
  · exact fun hguard => ⟨hkept, hafter.mpr hguard⟩

/-- Two threads report alarms of two entities; the second reads the number before the first has
written it. -/
def sampleOverlappingAlarms : List (AlarmSeqEvent Bool Bool) :=
  [.change false false 0 true false, .change true true 0 true false, .read false, .read true,
    .write false, .draw false, .send false, .write true, .draw true, .send true]

/-- Both notifications carry 1. -/
theorem alarmSeq_not_inOrder :
    ¬ ∀ events, Along alarmSeqStep (fun _ _ after => AlarmsNumbered after)
      (alarmSeqInit fun _ => 0) (events : List (AlarmSeqEvent Bool Bool)) := by
  intro hall
  have hsent : Along alarmSeqStep (fun _ _ after => Consecutive after.log)
      (alarmSeqInit fun _ => 0) sampleOverlappingAlarms :=
    (hall sampleOverlappingAlarms).mono fun _ _ _ hnumbered => hnumbered.sent
  revert hsent
  decide

end FalconGpon.Omci
