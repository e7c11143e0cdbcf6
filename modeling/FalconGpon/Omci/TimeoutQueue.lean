/-
# The order of the timers

The timer list is kept in the order of `timeout_time`, which is the 32-bit millisecond clock at
the insertion plus the delay, in 64 bits; the timeout thread compares the first one with the
clock. Beside the list the model keeps the time that does not wrap, and for each event when it
is due and how many were added before it. In runs in which the clock does not wrap while
an event is pending, and no identifier is given out that is still in use, the queue is in the
order of the due times and every event is called once, not early, and when the thread gets to
it (`timeoutQueue_kept`).
-/

import FalconGpon.Omci.Timeout
import Mathlib.Data.Prod.Lex

namespace FalconGpon.Omci

open FalconGpon.Lib

variable {η : Type}

/-! ## The queue -/

/-- `struct timeout_list_entry`; `timeout` stands for `struct timeout`. -/
structure QueuedTimeout (η : Type) where
  timeoutTime : Int
  timeoutId : BitVec 32
  timeout : η
  /-- How many events were added before. -/
  order : Nat
  /-- When the delay has elapsed. -/
  due : Int
deriving DecidableEq

/-- Where the timeout thread is. -/
inductive QueueThread (η : Type)
  | waiting
  /-- It has copied the first event and released the list. -/
  | taken (entry : QueuedTimeout η)
  /-- The handler has returned. -/
  | handled (entry : QueuedTimeout η)
deriving DecidableEq

/-- The event that the thread works on. -/
def QueueThread.entry : QueueThread η → Option (QueuedTimeout η)
  | .waiting => none
  | .taken entry => some entry
  | .handled entry => some entry

/-- The timers, the time in milliseconds, and what has happened so far. -/
structure TimeoutQueue (η : Type) where
  now : Nat
  timeoutList : List (QueuedTimeout η)
  lastTimeoutId : BitVec 32
  thread : QueueThread η
  added : List (QueuedTimeout η)
  /-- The events whose handler was called, and when. -/
  called : List (QueuedTimeout η × Nat)
  removed : List (QueuedTimeout η)

/-- `IFXOS_ElapsedTimeMSecGet(0)`. -/
def elapsedTimeMSecGet (now : Nat) : Nat :=
  now % 2 ^ 32

def wrappedMSec (now : Nat) : Nat :=
  2 ^ 32 * (now / 2 ^ 32)

namespace TimeoutQueue

/-- `next_active_event_get`. -/
def nextActiveEventGet (queue : TimeoutQueue η) : Option (QueuedTimeout η) :=
  match queue.timeoutList with
  | [] => none
  | first :: _ =>
      if first.timeoutTime ≤ (elapsedTimeMSecGet queue.now : Int) then some first else none

/-- The list part of `event_entry_add`. -/
def insertTimeout (new : QueuedTimeout η) : List (QueuedTimeout η) → List (QueuedTimeout η)
  | [] => [new]
  | entry :: rest =>
      if entry.timeoutTime > new.timeoutTime then new :: entry :: rest
      else entry :: insertTimeout new rest

/-- The entry that `event_entry_add` fills. -/
def newEntry (queue : TimeoutQueue η) (timeout : η) (delay : Int) : QueuedTimeout η where
  timeoutTime := elapsedTimeMSecGet queue.now + delay
  timeoutId := TimeoutState.nextTimeoutId queue.lastTimeoutId
  timeout := timeout
  order := queue.added.length
  due := queue.now + delay

/-- `timeout_event_add` with memory for the entry; without, nothing changes. -/
def timeoutEventAdd (queue : TimeoutQueue η) (timeout : η) (delay : Int) : TimeoutQueue η :=
  { queue with
    timeoutList := insertTimeout (queue.newEntry timeout delay) queue.timeoutList
    lastTimeoutId := (queue.newEntry timeout delay).timeoutId
    added := queue.added ++ [queue.newEntry timeout delay] }

/-- `lockless_event_remove`. -/
def locklessEventRemove (timeoutList : List (QueuedTimeout η)) (timeoutId : BitVec 32) :
    List (QueuedTimeout η) :=
  timeoutList.eraseP (·.timeoutId = timeoutId)

/-- `timeout_event_remove`. -/
def timeoutEventRemove (queue : TimeoutQueue η) (timeoutId : BitVec 32) : TimeoutQueue η :=
  { queue with
    timeoutList := locklessEventRemove queue.timeoutList timeoutId
    removed := queue.removed ++ (queue.timeoutList.find? (·.timeoutId = timeoutId)).toList }

end TimeoutQueue

/-- Time passes, an event is added or removed, or the timeout thread goes on. -/
inductive QueueEvent (η : Type)
  | tick (ms : Nat)
  | add (timeout : η) (delay : Int)
  | remove (timeoutId : BitVec 32)
  /-- The thread looks for an event, and sleeps if there is none. -/
  | poll
  /-- It calls the handler. -/
  | call
  /-- It removes the event. -/
  | drop
deriving DecidableEq

/-- A step. -/
def queueStep (queue : TimeoutQueue η) : QueueEvent η → Option (TimeoutQueue η)
  | .tick ms => some { queue with now := queue.now + ms }
  | .add timeout delay => some (queue.timeoutEventAdd timeout delay)
  | .remove timeoutId => some (queue.timeoutEventRemove timeoutId)
  | .poll =>
      match queue.thread with
      | .waiting =>
          match queue.nextActiveEventGet with
          | none => some queue
          | some entry => some { queue with thread := .taken entry }
      | _ => none
  | .call =>
      match queue.thread with
      | .taken entry =>
          some { queue with
            thread := .handled entry
            called := queue.called ++ [(entry, queue.now)] }
      | _ => none
  | .drop =>
      match queue.thread with
      | .handled entry =>
          some { queue with
            timeoutList := TimeoutQueue.locklessEventRemove queue.timeoutList entry.timeoutId
            thread := .waiting }
      | _ => none

/-- `timeout_init`. -/
def timeoutQueueInit (now : Nat) : TimeoutQueue η where
  now := now
  timeoutList := []
  lastTimeoutId := 0
  thread := .waiting
  added := []
  called := []
  removed := []

/-- The thread handles the next `n` events. -/
def rounds : Nat → List (QueueEvent η)
  | 0 => []
  | n + 1 => .poll :: .call :: .drop :: rounds n

/-! ## What is asked of it -/

namespace TimeoutQueue

def Settled (queue : TimeoutQueue η) (entry : QueuedTimeout η) : Prop :=
  (∃ time, (entry, time) ∈ queue.called) ∨ entry ∈ queue.removed

/-- The next identifier is that of a pending event, or of one that the thread is going to
remove. -/
def NextIdInUse (queue : TimeoutQueue η) : Prop :=
  (∃ entry ∈ queue.timeoutList,
    entry.timeoutId = TimeoutState.nextTimeoutId queue.lastTimeoutId) ∨
  ∃ entry ∈ queue.thread.entry, entry.timeoutId = TimeoutState.nextTimeoutId queue.lastTimeoutId

/-- The clock wraps while an event is pending, or an identifier is given out that is in use. -/
def InUse (queue : TimeoutQueue η) : QueueEvent η → Prop
  | .tick ms => wrappedMSec (queue.now + ms) ≠ wrappedMSec queue.now ∧ queue.timeoutList ≠ []
  | .add _ _ => queue.NextIdInUse
  | _ => False

end TimeoutQueue

instance (queue : TimeoutQueue η) : Decidable queue.NextIdInUse :=
  inferInstanceAs (Decidable (_ ∨ _))

instance (queue : TimeoutQueue η) : DecidablePred queue.InUse
  | .tick _ => inferInstanceAs (Decidable (_ ∧ _))
  | .add _ _ => inferInstanceAs (Decidable queue.NextIdInUse)
  | .remove _ | .poll | .call | .drop => inferInstanceAs (Decidable False)

/-- What a step should keep to. -/
structure TimeoutQueueKept (before : TimeoutQueue η) (event : QueueEvent η)
    (after : TimeoutQueue η) : Prop where
  ordered : Ascending (fun entry => toLex (entry.due, entry.order)) after.timeoutList
  nonzero : ∀ entry ∈ after.timeoutList, entry.timeoutId ≠ 0
  distinct : (after.timeoutList.map (·.timeoutId)).Nodup
  /-- No event is lost. -/
  accounted : ∀ entry ∈ after.added, entry ∈ after.timeoutList ∨ after.Settled entry
  calledOnce : (after.called.map (·.1)).Nodup
  notEarly : ∀ call ∈ after.called, call.1.due ≤ (call.2 : Int)
  /-- The thread goes to sleep only when all that is due is done. -/
  noneMissed : event = .poll → after.thread = .waiting →
    ∀ entry ∈ after.added, entry.due ≤ (after.now : Int) → after.Settled entry

namespace TimeoutQueue

variable {queue after : TimeoutQueue η}

/-! ## The list -/

variable {entry : QueuedTimeout η} {timeoutList : List (QueuedTimeout η)}

theorem mem_insertTimeout {new : QueuedTimeout η} :
    entry ∈ insertTimeout new timeoutList ↔ entry = new ∨ entry ∈ timeoutList := by
  induction timeoutList with
  | nil => simp [insertTimeout]
  | cons first rest ih =>
      rw [insertTimeout]
      split
      · exact List.mem_cons
      · rw [List.mem_cons, ih, List.mem_cons]
        exact or_left_comm

/-- Behind the events with the same time is where an event added later belongs. -/
theorem insertTimeout_eq_orderedInsert {new : QueuedTimeout η}
    (hlater : ∀ entry ∈ timeoutList, entry.order < new.order) :
    insertTimeout new timeoutList =
      timeoutList.orderedInsert (fun first second =>
        toLex (first.timeoutTime, first.order) ≤ toLex (second.timeoutTime, second.order)) new := by
  induction timeoutList with
  | nil => rfl
  | cons first rest ih =>
      have hfirst := hlater first List.mem_cons_self
      have hrest := ih fun entry hentry => hlater entry (List.mem_cons_of_mem _ hentry)
      have hbefore : toLex (new.timeoutTime, new.order) ≤ toLex (first.timeoutTime, first.order) ↔
          first.timeoutTime > new.timeoutTime := by
        rw [Prod.Lex.toLex_le_toLex]
        simp only
        omega
      rw [insertTimeout, List.orderedInsert_cons, hrest]
      exact if_congr hbefore.symm rfl rfl

/-- Inserting keeps identifiers apart. -/
theorem nodup_insertTimeout {new : QueuedTimeout η} (hlist : (timeoutList.map (·.timeoutId)).Nodup)
    (hnew : ∀ entry ∈ timeoutList, entry.timeoutId ≠ new.timeoutId) :
    ((insertTimeout new timeoutList).map (·.timeoutId)).Nodup := by
  induction timeoutList with
  | nil => exact List.nodup_singleton _
  | cons first rest ih =>
      rw [List.map_cons, List.nodup_cons] at hlist
      rw [insertTimeout]
      split
      · have hout : new.timeoutId ∉ (first :: rest).map (·.timeoutId) := by
          intro hin
          have ⟨entry, hentry, hsame⟩ := List.mem_map.mp hin
          exact hnew entry hentry hsame
        exact List.nodup_cons.mpr ⟨hout, List.nodup_cons.mpr hlist⟩
      · have hout : first.timeoutId ∉ (insertTimeout new rest).map (·.timeoutId) := by
          intro hin
          have ⟨entry, hentry, hsame⟩ := List.mem_map.mp hin
          rcases mem_insertTimeout.mp hentry with rfl | hrest
          · exact hnew first List.mem_cons_self hsame.symm
          · exact hlist.1 (hsame ▸ List.mem_map_of_mem hrest)
        exact List.nodup_cons.mpr
          ⟨hout, ih hlist.2 fun entry hentry => hnew entry (List.mem_cons_of_mem _ hentry)⟩

/-- Removing an identifier takes the first event that has it. -/
theorem mem_locklessEventRemove_or {timeoutId : BitVec 32} (hentry : entry ∈ timeoutList) :
    entry ∈ locklessEventRemove timeoutList timeoutId ∨
      timeoutList.find? (·.timeoutId = timeoutId) = some entry := by
  unfold locklessEventRemove
  induction timeoutList with
  | nil => cases hentry
  | cons first rest ih =>
      by_cases hfirst : first.timeoutId = timeoutId
      · rw [List.eraseP_cons_of_pos (by simpa using hfirst),
          List.find?_cons_of_pos (by simpa using hfirst)]
        rcases List.mem_cons.mp hentry with rfl | hrest
        · exact Or.inr rfl
        · exact Or.inl hrest
      · rw [List.eraseP_cons_of_neg (by simpa using hfirst),
          List.find?_cons_of_neg (by simpa using hfirst)]
        rcases List.mem_cons.mp hentry with rfl | hrest
        · exact Or.inl List.mem_cons_self
        · exact (ih hrest).imp_left (List.mem_cons_of_mem _)

/-- Where the identifiers differ, none is left of a removed one. -/
theorem ne_of_mem_locklessEventRemove {timeoutId : BitVec 32}
    (hlist : (timeoutList.map (·.timeoutId)).Nodup)
    (hentry : entry ∈ locklessEventRemove timeoutList timeoutId) : entry.timeoutId ≠ timeoutId := by
  unfold locklessEventRemove at hentry
  induction timeoutList with
  | nil => cases hentry
  | cons first rest ih =>
      rw [List.map_cons, List.nodup_cons] at hlist
      by_cases hfirst : first.timeoutId = timeoutId
      · rw [List.eraseP_cons_of_pos (by simpa using hfirst)] at hentry
        intro hsame
        exact hlist.1 (hfirst.trans hsame.symm ▸ List.mem_map_of_mem hentry)
      · rw [List.eraseP_cons_of_neg (by simpa using hfirst)] at hentry
        rcases List.mem_cons.mp hentry with rfl | hrest
        · exact hfirst
        · exact ih hlist.2 hrest

theorem nextTimeoutId_ne_zero (lastTimeoutId : BitVec 32) :
    TimeoutState.nextTimeoutId lastTimeoutId ≠ 0 := by
  simp only [TimeoutState.nextTimeoutId]
  split
  · rename_i hzero
    rw [hzero]
    decide
  · assumption

/-! ## Identifiers -/

/-- Identifiers name one event each, and no other than the one the thread works on. -/
structure Identified (queue : TimeoutQueue η) : Prop where
  distinct : (queue.timeoutList.map (·.timeoutId)).Nodup
  owned : ∀ entry ∈ queue.thread.entry, ∀ other ∈ queue.timeoutList,
    other.timeoutId = entry.timeoutId → other = entry

theorem identified_init (now : Nat) : (timeoutQueueInit now : TimeoutQueue η).Identified :=
  ⟨List.nodup_nil, nofun⟩

theorem mem_of_mem_locklessEventRemove {timeoutId : BitVec 32}
    (hentry : entry ∈ locklessEventRemove timeoutList timeoutId) : entry ∈ timeoutList :=
  List.mem_of_mem_eraseP hentry

theorem nextActiveEventGet_eq_some (hnext : queue.nextActiveEventGet = some entry) :
    ∃ rest, queue.timeoutList = entry :: rest ∧
      entry.timeoutTime ≤ (elapsedTimeMSecGet queue.now : Int) := by
  unfold nextActiveEventGet at hnext
  split at hnext
  · cases hnext
  · rename_i first rest hlist
    have ⟨hdue, hfirst⟩ := Option.ite_none_right_eq_some.mp hnext
    exact ⟨rest, Option.some.inj hfirst ▸ hlist, Option.some.inj hfirst ▸ hdue⟩

theorem mem_of_nextActiveEventGet
    (hnext : queue.nextActiveEventGet = some entry) : entry ∈ queue.timeoutList := by
  have ⟨rest, hlist, _⟩ := nextActiveEventGet_eq_some hnext
  exact hlist ▸ List.mem_cons_self

namespace Identified

theorem eq_of_timeoutId_eq (h : queue.Identified) {entry other : QueuedTimeout η}
    (hentry : entry ∈ queue.timeoutList) (hother : other ∈ queue.timeoutList)
    (hsame : other.timeoutId = entry.timeoutId) : other = entry :=
  List.inj_on_of_nodup_map h.distinct hother hentry hsame

theorem add (h : queue.Identified) (hfree : ¬ queue.NextIdInUse) (timeout : η) (delay : Int) :
    (queue.timeoutEventAdd timeout delay).Identified where
  distinct := nodup_insertTimeout h.distinct fun entry hentry hsame =>
    hfree (Or.inl ⟨entry, hentry, hsame⟩)
  owned entry hentry other hother hsame := by
    rcases mem_insertTimeout.mp hother with rfl | hother
    · exact absurd (Or.inr ⟨entry, hentry, hsame.symm⟩) hfree
    · exact h.owned entry hentry other hother hsame

theorem remove (h : queue.Identified) (timeoutId : BitVec 32) :
    (queue.timeoutEventRemove timeoutId).Identified where
  distinct := h.distinct.sublist (List.eraseP_sublist.map _)
  owned entry hentry other hother :=
    h.owned entry hentry other (mem_of_mem_locklessEventRemove hother)

theorem take (h : queue.Identified) {entry : QueuedTimeout η}
    (hnext : queue.nextActiveEventGet = some entry) :
    ({ queue with thread := .taken entry } : TimeoutQueue η).Identified where
  distinct := h.distinct
  owned other hother third hthird hsame := by
    obtain rfl : entry = other := Option.some.inj hother
    exact h.eq_of_timeoutId_eq (mem_of_nextActiveEventGet hnext) hthird hsame

theorem call (h : queue.Identified) {entry : QueuedTimeout η}
    (htaken : queue.thread = .taken entry) :
    ({ queue with
      thread := .handled entry
      called := queue.called ++ [(entry, queue.now)] } : TimeoutQueue η).Identified where
  distinct := h.distinct
  owned other hother := h.owned other (htaken ▸ hother)

theorem drop (h : queue.Identified) (timeoutId : BitVec 32) :
    ({ queue with
      timeoutList := locklessEventRemove queue.timeoutList timeoutId
      thread := .waiting } : TimeoutQueue η).Identified where
  distinct := (h.remove timeoutId).distinct
  owned := nofun

end Identified

/-! ## The invariant -/

/-- What holds between the steps. -/
structure Consistent (queue : TimeoutQueue η) : Prop extends Identified queue where
  sorted : Ascending (fun entry => toLex (entry.timeoutTime, entry.order)) queue.timeoutList
  /-- All pending times were made since the clock has wrapped last. -/
  offset : ∀ entry ∈ queue.timeoutList, entry.due = entry.timeoutTime + wrappedMSec queue.now
  nonzero : ∀ entry ∈ queue.timeoutList, entry.timeoutId ≠ 0
  pending : ∀ entry ∈ queue.timeoutList, entry ∈ queue.added
  numbered : ∀ entry ∈ queue.added, entry.order < queue.added.length
  accounted : ∀ entry ∈ queue.added, entry ∈ queue.timeoutList ∨ queue.Settled entry
  calledAdded : ∀ call ∈ queue.called, call.1 ∈ queue.added
  calledOnce : (queue.called.map (·.1)).Nodup
  notEarly : ∀ call ∈ queue.called, call.1.due ≤ (call.2 : Int)
  /-- An event that is called stays in the list until the thread removes it. -/
  handled : ∀ call ∈ queue.called, call.1 ∈ queue.timeoutList → queue.thread = .handled call.1
  called : ∀ entry, queue.thread = .handled entry → ∃ time, (entry, time) ∈ queue.called
  taken : ∀ entry, queue.thread = .taken entry →
    entry ∈ queue.added ∧ entry.due ≤ (queue.now : Int) ∧ ∀ call ∈ queue.called, call.1 ≠ entry

theorem consistent_init (now : Nat) : (timeoutQueueInit now : TimeoutQueue η).Consistent where
  toIdentified := identified_init now
  sorted := Ascending.nil
  offset := nofun
  nonzero := nofun
  pending := nofun
  numbered := nofun
  accounted := nofun
  calledAdded := nofun
  calledOnce := List.nodup_nil
  notEarly := nofun
  handled := nofun
  called := nofun
  taken := nofun

/-- Time passes. -/
theorem Consistent.tick (h : queue.Consistent) {ms : Nat} (hfree : ¬ queue.InUse (.tick ms)) :
    ({ queue with now := queue.now + ms } : TimeoutQueue η).Consistent where
  toIdentified := ⟨h.distinct, h.owned⟩
  sorted := h.sorted
  offset entry hentry := by
    have hsame : wrappedMSec (queue.now + ms) = wrappedMSec queue.now := by
      by_contra hwrap
      exact hfree ⟨hwrap, List.ne_nil_of_mem hentry⟩
    rw [hsame]
    exact h.offset entry hentry
  nonzero := h.nonzero
  pending := h.pending
  numbered := h.numbered
  accounted := h.accounted
  calledAdded := h.calledAdded
  calledOnce := h.calledOnce
  notEarly := h.notEarly
  handled := h.handled
  called := h.called
  taken entry htaken := by
    have ⟨hadded, hdue, hnew⟩ := h.taken entry htaken
    have hlater : (queue.now : Int) ≤ (queue.now + ms : Nat) := by omega
    exact ⟨hadded, hdue.trans hlater, hnew⟩

theorem Consistent.sorted_insertTimeout (h : queue.Consistent) (timeout : η) (delay : Int) :
    Ascending (fun entry => toLex (entry.timeoutTime, entry.order))
      (insertTimeout (queue.newEntry timeout delay) queue.timeoutList) := by
  have hlater : ∀ entry ∈ queue.timeoutList,
      entry.order < (queue.newEntry timeout delay).order :=
    fun entry hentry => h.numbered entry (h.pending entry hentry)
  rw [insertTimeout_eq_orderedInsert hlater]
  apply h.sorted.orderedInsert
  intro entry hentry hsame
  have horder : entry.order = (queue.newEntry timeout delay).order :=
    congrArg (fun key => (ofLex key).2) hsame
  exact (hlater entry hentry).ne horder

theorem elapsedTimeMSecGet_add_wrappedMSec (now : Nat) :
    elapsedTimeMSecGet now + wrappedMSec now = now :=
  Nat.mod_add_div now (2 ^ 32)

section Kept

variable (h : queue.Consistent)
include h

/-- An event is added under an identifier that is not in use. -/
theorem Consistent.addEvent {timeout : η} {delay : Int}
    (hfree : ¬ queue.InUse (.add timeout delay)) :
    (queue.timeoutEventAdd timeout delay).Consistent := by
  have hunseen : queue.newEntry timeout delay ∉ queue.added :=
    fun hin => (h.numbered _ hin).ne rfl
  have hold : ∀ {entry}, entry ∈ queue.added →
      entry ∈ queue.added ++ [queue.newEntry timeout delay] := List.mem_append_left _
  exact {
    toIdentified := h.toIdentified.add hfree timeout delay
    sorted := h.sorted_insertTimeout timeout delay
    offset := by
      intro entry hentry
      rcases mem_insertTimeout.mp hentry with rfl | hentry
      · have hnow := elapsedTimeMSecGet_add_wrappedMSec queue.now
        simp only [newEntry, timeoutEventAdd]
        omega
      · exact h.offset entry hentry
    nonzero := by
      intro entry hentry
      rcases mem_insertTimeout.mp hentry with rfl | hentry
      · exact nextTimeoutId_ne_zero _
      · exact h.nonzero entry hentry
    pending := by
      intro entry hentry
      rcases mem_insertTimeout.mp hentry with rfl | hentry
      · exact List.mem_append_right _ List.mem_cons_self
      · exact hold (h.pending entry hentry)
    numbered := by
      intro entry hentry
      have hlength : (queue.timeoutEventAdd timeout delay).added.length = queue.added.length + 1 :=
        List.length_append
      rw [hlength]
      rcases List.mem_append.mp hentry with hentry | hnew
      · exact Nat.lt_succ_of_lt (h.numbered entry hentry)
      · rw [List.mem_singleton.mp hnew]
        exact Nat.lt_succ_self _
    accounted := by
      intro entry hentry
      rcases List.mem_append.mp hentry with hentry | hnew
      · exact (h.accounted entry hentry).imp_left fun hin => mem_insertTimeout.mpr (Or.inr hin)
      · exact Or.inl (mem_insertTimeout.mpr (Or.inl (List.mem_singleton.mp hnew)))
    calledAdded := fun call hcall => hold (h.calledAdded call hcall)
    calledOnce := h.calledOnce
    notEarly := h.notEarly
    handled := by
      intro call hcall hin
      rcases mem_insertTimeout.mp hin with hnew | hin
      · exact absurd (hnew ▸ h.calledAdded call hcall) hunseen
      · exact h.handled call hcall hin
    called := h.called
    taken := fun entry htaken => (h.taken entry htaken).imp_left hold }

/-- Taking an event out keeps the list consistent, if it is accounted for. -/
theorem Consistent.erase (timeoutId : BitVec 32)
    (removed : List (QueuedTimeout η)) (hkept : ∀ entry ∈ queue.removed, entry ∈ removed)
    (hgone : ∀ entry, queue.timeoutList.find? (·.timeoutId = timeoutId) = some entry →
      (∃ time, (entry, time) ∈ queue.called) ∨ entry ∈ removed) :
    ({ queue with
      timeoutList := locklessEventRemove queue.timeoutList timeoutId
      removed := removed } : TimeoutQueue η).Consistent where
  toIdentified := ⟨(h.remove timeoutId).distinct, (h.remove timeoutId).owned⟩
  sorted := h.sorted.sublist List.eraseP_sublist
  offset entry hentry := h.offset entry (mem_of_mem_locklessEventRemove hentry)
  nonzero entry hentry := h.nonzero entry (mem_of_mem_locklessEventRemove hentry)
  pending entry hentry := h.pending entry (mem_of_mem_locklessEventRemove hentry)
  numbered := h.numbered
  accounted entry hentry := by
    rcases h.accounted entry hentry with hin | hcalled | hremoved
    · exact (mem_locklessEventRemove_or hin).imp_right (hgone entry)
    · exact Or.inr (Or.inl hcalled)
    · exact Or.inr (Or.inr (hkept entry hremoved))
  calledAdded := h.calledAdded
  calledOnce := h.calledOnce
  notEarly := h.notEarly
  handled call hcall hin := h.handled call hcall (mem_of_mem_locklessEventRemove hin)
  called := h.called
  taken := h.taken

theorem Consistent.removeEvent (timeoutId : BitVec 32) :
    (queue.timeoutEventRemove timeoutId).Consistent := by
  apply h.erase
  · exact fun entry hentry => List.mem_append_left _ hentry
  · intro entry hfound
    rw [hfound]
    exact Or.inr (List.mem_append_right _ List.mem_cons_self)

/-- The thread takes an event. -/
theorem Consistent.takeEvent (hwaiting : queue.thread = .waiting)
    (hnext : queue.nextActiveEventGet = some entry) :
    ({ queue with thread := .taken entry } : TimeoutQueue η).Consistent := by
  have ⟨_, _, hdue⟩ := nextActiveEventGet_eq_some hnext
  have hentry := mem_of_nextActiveEventGet hnext
  have hunhandled : ∀ call ∈ queue.called, call.1 ∉ queue.timeoutList := by
    intro call hcall hin
    have hhandled := h.handled call hcall hin
    rw [hwaiting] at hhandled
    cases hhandled
  have hnow := elapsedTimeMSecGet_add_wrappedMSec queue.now
  have hoffset := h.offset entry hentry
  exact { h with
    toIdentified := h.toIdentified.take hnext
    handled := fun call hcall hin => absurd hin (hunhandled call hcall)
    called := nofun
    taken := by
      intro other htaken
      obtain rfl : entry = other := QueueThread.taken.inj htaken
      have hdue' : entry.due ≤ (queue.now : Int) := by omega
      exact ⟨h.pending entry hentry, hdue', fun call hcall hsame =>
        hunhandled call hcall (hsame ▸ hentry)⟩ }

/-- It calls the handler. -/
theorem Consistent.callHandler
    (htaken : queue.thread = .taken entry) :
    ({ queue with
      thread := .handled entry
      called := queue.called ++ [(entry, queue.now)] } : TimeoutQueue η).Consistent := by
  have ⟨hadded, hdue, hnew⟩ := h.taken entry htaken
  have hcalls : ∀ {P : QueuedTimeout η × Nat → Prop}, (∀ call ∈ queue.called, P call) →
      P (entry, queue.now) → ∀ call ∈ queue.called ++ [(entry, queue.now)], P call := by
    intro P hold hlast call hcall
    rcases List.mem_append.mp hcall with hcall | hcall
    · exact hold call hcall
    · exact List.mem_singleton.mp hcall ▸ hlast
  exact { h with
    toIdentified := h.toIdentified.call htaken
    accounted := by
      intro other hother
      rcases h.accounted other hother with hin | ⟨time, hcalled⟩ | hremoved
      · exact Or.inl hin
      · exact Or.inr (Or.inl ⟨time, List.mem_append_left _ hcalled⟩)
      · exact Or.inr (Or.inr hremoved)
    calledAdded := hcalls h.calledAdded hadded
    calledOnce := by
      rw [List.map_append, List.map_singleton]
      apply h.calledOnce.append (List.nodup_singleton _)
      rw [List.disjoint_singleton]
      intro hin
      have ⟨call, hcall, hsame⟩ := List.mem_map.mp hin
      exact hnew call hcall hsame
    notEarly := hcalls h.notEarly hdue
    handled := by
      apply hcalls
      · intro call hcall hin
        have hhandled := h.handled call hcall hin
        rw [htaken] at hhandled
        cases hhandled
      · exact fun _ => rfl
    called := by
      intro other hhandled
      obtain rfl : entry = other := QueueThread.handled.inj hhandled
      exact ⟨queue.now, List.mem_append_right _ List.mem_cons_self⟩
    taken := nofun }

/-- It removes the event. -/
theorem Consistent.dropEvent
    (hhandled : queue.thread = .handled entry) :
    ({ queue with
      timeoutList := locklessEventRemove queue.timeoutList entry.timeoutId
      thread := .waiting } : TimeoutQueue η).Consistent := by
  have hentry : entry ∈ queue.thread.entry := hhandled ▸ rfl
  have herased := h.erase entry.timeoutId queue.removed (fun _ hin => hin) fun other hfound => by
      have hid : other.timeoutId = entry.timeoutId := by
        simpa using List.find?_some hfound
      rw [h.owned entry hentry other (List.mem_of_find?_eq_some hfound) hid]
      exact Or.inl (h.called entry hhandled)
  exact { herased with
    toIdentified := h.toIdentified.drop entry.timeoutId
    handled := by
      intro call hcall hin
      have hsame := herased.handled call hcall hin
      obtain rfl : entry = call.1 := QueueThread.handled.inj (hhandled.symm.trans hsame)
      exact absurd rfl (ne_of_mem_locklessEventRemove h.distinct hin)
    called := nofun
    taken := nofun }

/-! ## Steps and runs -/

/-- If the thread finds nothing, all that is due is done. -/
theorem Consistent.settled (hnone : queue.nextActiveEventGet = none)
    (hentry : entry ∈ queue.added)
    (hdue : entry.due ≤ (queue.now : Int)) : queue.Settled entry := by
  apply (h.accounted entry hentry).resolve_left
  intro hin
  have hnow := elapsedTimeMSecGet_add_wrappedMSec queue.now
  have hoffset := h.offset entry hin
  have hsorted := h.sorted
  unfold nextActiveEventGet at hnone
  split at hnone
  · rename_i hlist
    rw [hlist] at hin
    cases hin
  · rename_i first rest hlist
    have hlate : ¬ first.timeoutTime ≤ (elapsedTimeMSecGet queue.now : Int) := by
      intro hle
      rw [if_pos hle] at hnone
      cases hnone
    have hfirst : first.timeoutTime ≤ entry.timeoutTime := by
      rw [hlist] at hin hsorted
      rcases List.mem_cons.mp hin with rfl | hrest
      · exact le_rfl
      · have hlt := (List.pairwise_cons.mp hsorted).1 entry hrest
        rcases Prod.Lex.toLex_lt_toLex.mp hlt with hless | ⟨hsame, _⟩
        · exact hless.le
        · exact hsame.le
    omega

theorem Consistent.ordered :
    Ascending (fun entry => toLex (entry.due, entry.order)) queue.timeoutList := by
  apply h.sorted.imp_of_mem
  intro first second hfirst hsecond hlt
  rw [Prod.Lex.toLex_lt_toLex] at hlt ⊢
  have hleft := h.offset first hfirst
  have hright := h.offset second hsecond
  simp only at hlt ⊢
  omega

/-- A step that reuses nothing keeps the queue consistent. -/
theorem Consistent.step {event : QueueEvent η}
    (hfree : ¬ queue.InUse event) (hstep : queueStep queue event = some after) :
    after.Consistent := by
  cases event with
  | tick ms => exact Option.some.inj hstep ▸ h.tick hfree
  | add timeout delay => exact Option.some.inj hstep ▸ h.addEvent hfree
  | remove timeoutId => exact Option.some.inj hstep ▸ h.removeEvent timeoutId
  | poll =>
      simp only [queueStep] at hstep
      split at hstep
      · rename_i hwaiting
        split at hstep
        · exact Option.some.inj hstep ▸ h
        · rename_i entry hnext
          exact Option.some.inj hstep ▸ h.takeEvent hwaiting hnext
      · cases hstep
  | call =>
      simp only [queueStep] at hstep
      split at hstep
      · rename_i entry htaken
        exact Option.some.inj hstep ▸ h.callHandler htaken
      · cases hstep
  | drop =>
      simp only [queueStep] at hstep
      split at hstep
      · rename_i entry hhandled
        exact Option.some.inj hstep ▸ h.dropEvent hhandled
      · cases hstep

end Kept

theorem nextActiveEventGet_of_poll (hstep : queueStep queue .poll = some after)
    (hwaiting : after.thread = .waiting) : queue.nextActiveEventGet = none ∧ after = queue := by
  simp only [queueStep] at hstep
  split at hstep
  · split at hstep
    · rename_i hnone
      exact ⟨hnone, (Option.some.inj hstep).symm⟩
    · obtain rfl := Option.some.inj hstep
      cases hwaiting
  · cases hstep

theorem Consistent.kept (h : queue.Consistent) {event : QueueEvent η}
    (hstep : queueStep queue event = some after) (hafter : after.Consistent) :
    TimeoutQueueKept queue event after where
  ordered := hafter.ordered
  nonzero := hafter.nonzero
  distinct := hafter.distinct
  accounted := hafter.accounted
  calledOnce := hafter.calledOnce
  notEarly := hafter.notEarly
  noneMissed hpoll hwaiting entry hentry hdue := by
    rw [hpoll] at hstep
    have ⟨hnone, hsame⟩ := nextActiveEventGet_of_poll hstep hwaiting
    rw [hsame] at hentry hdue ⊢
    exact h.settled hnone hentry hdue

/-- The queue after the thread has handled an event. -/
def round (queue : TimeoutQueue η) (entry : QueuedTimeout η) : TimeoutQueue η :=
  { queue with
    timeoutList := locklessEventRemove queue.timeoutList entry.timeoutId
    thread := .waiting
    called := queue.called ++ [(entry, queue.now)] }

theorem execOn_round (hwaiting : queue.thread = .waiting)
    (hnext : queue.nextActiveEventGet = some entry) (events : List (QueueEvent η)) :
    execOn queueStep (fun _ _ => True) queue (.poll :: .call :: .drop :: events) =
      execOn queueStep (fun _ _ => True) (queue.round entry) events := by
  simp only [execOn, queueStep, hwaiting, hnext, if_true]
  rfl

theorem Consistent.round (h : queue.Consistent) (hwaiting : queue.thread = .waiting)
    (hnext : queue.nextActiveEventGet = some entry) : (queue.round entry).Consistent ∧
      (queue.round entry).timeoutList.length < queue.timeoutList.length := by
  have ⟨rest, hlist, _⟩ := nextActiveEventGet_eq_some hnext
  have hrest : (queue.round entry).timeoutList = rest := by
    simp only [TimeoutQueue.round, hlist]
    exact List.eraseP_cons_of_pos (by simp)
  rw [hrest, hlist]
  exact ⟨((h.takeEvent hwaiting hnext).callHandler rfl).dropEvent rfl, Nat.lt_succ_self _⟩

theorem exists_rounds (h : queue.Consistent) (hwaiting : queue.thread = .waiting) :
    ∃ n after, execOn queueStep (fun _ _ => True) queue (rounds n) = some after ∧
      ∀ entry ∈ queue.added, entry.due ≤ (queue.now : Int) →
        (∃ time, (entry, time) ∈ after.called) ∨ entry ∈ queue.removed := by
  induction hlength : queue.timeoutList.length using Nat.strong_induction_on
    generalizing queue with
  | _ length ih =>
      cases hnext : queue.nextActiveEventGet with
      | none => exact ⟨0, queue, rfl, fun entry hentry hdue => h.settled hnext hentry hdue⟩
      | some entry =>
          have ⟨hround, hshorter⟩ := h.round hwaiting hnext
          have ⟨n, after, hexec, hdone⟩ := ih _ (hlength ▸ hshorter) hround rfl rfl
          exact ⟨n + 1, after, (execOn_round hwaiting hnext (rounds n)).trans hexec, hdone⟩

end TimeoutQueue

/-- In every run in which the clock does not wrap while an event is pending, and no identifier
is given out that is in use, the queue is ascending by due time with equal times in the order
of insertion, the identifiers are not 0 and differ, and no event is lost, called twice or
called early; and from every state reached the waiting thread gets all that is due done. -/
theorem timeoutQueue_kept (now : Nat) (events : List (QueueEvent η))
    (hfree : Along queueStep (fun before event _ => ¬ before.InUse event) (timeoutQueueInit now)
      events) :
    Along queueStep TimeoutQueueKept (timeoutQueueInit now) events ∧
    ∀ state, execOn queueStep (fun _ _ => True) (timeoutQueueInit now) events = some state →
      state.thread = .waiting →
      ∃ n after, execOn queueStep (fun _ _ => True) state (rounds n) = some after ∧
        ∀ entry ∈ state.added, entry.due ≤ (state.now : Int) →
          (∃ time, (entry, time) ∈ after.called) ∨ entry ∈ state.removed := by
  have hinit := TimeoutQueue.consistent_init (η := η) now
  constructor
  · apply Along.of_guard _ hinit hfree
    intro before event after hbefore hguard hstep
    have hafter := hbefore.step hguard hstep
    exact ⟨hbefore.kept hstep hafter, hafter⟩
  · intro state hexec hwaiting
    have hstate : state.Consistent :=
      hfree.inv_of_execOn (fun _ _ _ hbefore hguard hstep => hbefore.step hguard hstep) hinit hexec
    exact TimeoutQueue.exists_rounds hstate hwaiting

def sampleQueue : List (QueueEvent Unit) :=
  [.add () 30, .add () 10, .tick 10, .poll, .call, .drop, .poll]

theorem timeoutQueue_kept_sample :
    Along queueStep TimeoutQueueKept (timeoutQueueInit 0) sampleQueue :=
  (timeoutQueue_kept 0 sampleQueue (by decide)).1

def sampleWrap : List (QueueEvent Unit) :=
  [.add () 2000, .tick 2000]

def wrapQueue : TimeoutQueue Unit :=
  { (timeoutQueueInit 4294966296).timeoutEventAdd () 2000 with now := 4294968296 }

theorem poll_wrapQueue : queueStep wrapQueue .poll = some wrapQueue := by
  have hnone : wrapQueue.nextActiveEventGet = none := by decide
  rw [queueStep, hnone]
  rfl

/-- The thread sleeps although the event is due. -/
theorem timeoutQueue_not_kept :
    ¬ ∀ (now : Nat) (events : List (QueueEvent Unit)),
      Along queueStep TimeoutQueueKept (timeoutQueueInit now) events := by
  intro hall
  have hexec : execOn queueStep (fun _ _ => True) (timeoutQueueInit 4294966296) sampleWrap =
      some wrapQueue := rfl
  have hkept := (hall 4294966296 (sampleWrap ++ [.poll])).of_execOn hexec poll_wrapQueue
  have hsettled := hkept.noneMissed rfl rfl _ List.mem_cons_self (by decide)
  rcases hsettled with ⟨_, hcalled⟩ | hremoved
  · cases hcalled
  · cases hremoved

end FalconGpon.Omci
