/-
# Timers

The timeout thread takes the first event that is due under the lock of the list, runs its
handler under the lock of the copy the handler clears, and removes the event under the
first lock again. The action thread adds and removes events under the lock of the list,
most of them while it holds the lock of a copy. A removed timer has no later effect exactly
in the runs in which none is removed that the timeout thread has taken and not yet handled,
or that shares its identifier (`timeoutEventRemove_kept_iff`).
-/

import FalconGpon.Lib.Transition
import FalconGpon.Omci.GetAction

namespace FalconGpon.Omci

open FalconGpon.Lib

variable {ω : Type}

/-- The copies that a timer clears. -/
inductive CopyKey
  | alarm
  | mib
  | table (key : TblKey)
deriving DecidableEq

/-- `context->alarm_copy.list.lock`, `context->mib_copy.list.lock` and `table_copy_lock`. -/
inductive CopyLock
  | alarm
  | mib
  | table
deriving DecidableEq

/-- The lock of a copy. -/
def CopyKey.lock : CopyKey → CopyLock
  | .alarm => .alarm
  | .mib => .mib
  | .table _ => .table

/-- A copy with its timer; `contents` is `none` if the list is empty or the entry not valid. -/
structure TimedCopy (ω : Type) where
  contents : Option ω
  timeoutId : BitVec 32
deriving DecidableEq

def TimedCopy.cleared : TimedCopy ω := ⟨none, 0⟩

/-- `timeout.handler`, with the arguments of the table handler. -/
inductive TimeoutHandler
  | alarmCopyClean
  | mibCopyClean
  | getNextTblCopyClean (key : TblKey)
  /-- Timers that clear no copy. -/
  | other
deriving DecidableEq

/-- The copy that a handler clears. -/
def TimeoutHandler.copy : TimeoutHandler → Option CopyKey
  | .alarmCopyClean => some .alarm
  | .mibCopyClean => some .mib
  | .getNextTblCopyClean key => some (.table key)
  | .other => none

/-- `struct timeout_list_entry`. -/
structure TimeoutEntry where
  timeoutTime : Int
  timeoutId : BitVec 32
  handler : TimeoutHandler
  /-- `timeout_event_remove` has returned for its identifier. -/
  removed : Bool
deriving DecidableEq

/-- Where the timeout thread is. -/
inductive TimeoutThread
  | waiting
  /-- It has copied the first event and released the list. -/
  | taken (entry : TimeoutEntry)
  /-- The handler has returned. -/
  | handled (timeoutId : BitVec 32)
deriving DecidableEq

def TimeoutThread.entry : TimeoutThread → Option TimeoutEntry
  | .taken entry => some entry
  | _ => none

/-- The copies and the timers. -/
structure TimeoutState (ω : Type) where
  timeoutList : List TimeoutEntry
  lastTimeoutId : BitVec 32
  thread : TimeoutThread
  /-- The locks that the action thread holds. -/
  locked : CopyLock → Bool
  copies : CopyKey → TimedCopy ω

namespace TimeoutState

/-- `alarm_copy_clean_timeout_handle`. -/
def alarmCopyCleanTimeoutHandle (state : TimeoutState ω) : TimeoutState ω :=
  { state with copies := Function.update state.copies .alarm .cleared }

/-- `mib_copy_clean_timeout_handle`. -/
def mibCopyCleanTimeoutHandle (state : TimeoutState ω) : TimeoutState ω :=
  { state with copies := Function.update state.copies .mib .cleared }

/-- `get_next_tbl_copy_clean_timeout_handler`. -/
def getNextTblCopyCleanTimeoutHandler (state : TimeoutState ω) (key : TblKey) : TimeoutState ω :=
  if (state.copies (.table key)).contents.isSome then
    { state with copies := Function.update state.copies (.table key) .cleared }
  else state

/-- Call `timeout.handler`. -/
def handle (state : TimeoutState ω) : TimeoutHandler → TimeoutState ω
  | .alarmCopyClean => state.alarmCopyCleanTimeoutHandle
  | .mibCopyClean => state.mibCopyCleanTimeoutHandle
  | .getNextTblCopyClean key => state.getNextTblCopyCleanTimeoutHandler key
  | .other => state

/-- `next_active_event_get`. -/
def nextActiveEventGet (state : TimeoutState ω) (now : Int) : Option TimeoutEntry :=
  match state.timeoutList with
  | [] => none
  | entry :: _ => if entry.timeoutTime ≤ now then some entry else none

/-- `lockless_event_remove`. -/
def locklessEventRemove (timeoutList : List TimeoutEntry) (timeoutId : BitVec 32) :
    List TimeoutEntry :=
  timeoutList.eraseP (·.timeoutId = timeoutId)

def noteEntry (timeoutId : BitVec 32) (entry : TimeoutEntry) : TimeoutEntry :=
  if entry.timeoutId = timeoutId then { entry with removed := true } else entry

def noteThread (timeoutId : BitVec 32) : TimeoutThread → TimeoutThread
  | .taken entry => .taken (noteEntry timeoutId entry)
  | thread => thread

/-- `timeout_event_remove`. -/
def timeoutEventRemove (state : TimeoutState ω) (timeoutId : BitVec 32) : TimeoutState ω :=
  { state with
    timeoutList := (locklessEventRemove state.timeoutList timeoutId).map (noteEntry timeoutId)
    thread := noteThread timeoutId state.thread }

/-- The list part of `event_entry_add`. -/
def insertEntry (new : TimeoutEntry) : List TimeoutEntry → List TimeoutEntry
  | [] => [new]
  | entry :: rest =>
      if entry.timeoutTime > new.timeoutTime then new :: entry :: rest
      else entry :: insertEntry new rest

/-- The identifier after `last_timeout_id`; 0 is none. -/
def nextTimeoutId (lastTimeoutId : BitVec 32) : BitVec 32 :=
  let timeoutId := lastTimeoutId + 1
  if timeoutId = 0 then timeoutId + 1 else timeoutId

/-- `timeout_event_add` with memory for the entry; a copy keeps the identifier of its
timer. -/
def timeoutEventAdd (state : TimeoutState ω) (handler : TimeoutHandler) (now delay : Int) :
    TimeoutState ω :=
  let timeoutId := nextTimeoutId state.lastTimeoutId
  { state with
    timeoutList := insertEntry ⟨now + delay, timeoutId, handler, false⟩ state.timeoutList
    lastTimeoutId := timeoutId
    copies := match handler.copy with
      | none => state.copies
      | some key => Function.update state.copies key { state.copies key with timeoutId } }

end TimeoutState

/-- What the two threads do between taking a lock and releasing it. -/
inductive TimeoutEvent (ω : Type)
  /-- The timeout thread looks for an event. -/
  | next (now : Int)
  /-- It calls the handler. -/
  | handle
  /-- It removes the event. -/
  | drop
  /-- The action thread takes the lock of a copy, or gives it back. -/
  | lock (lock : CopyLock)
  | unlock (lock : CopyLock)
  /-- It makes or changes a copy. -/
  | write (key : CopyKey) (contents : Option ω)
  | add (handler : TimeoutHandler) (now delay : Int)
  | remove (timeoutId : BitVec 32)
deriving DecidableEq

/-- A step of one of the threads; a handler waits for the lock of its copy. -/
def timeoutStep (state : TimeoutState ω) : TimeoutEvent ω → Option (TimeoutState ω)
  | .next now =>
      match state.thread with
      | .waiting =>
          (state.nextActiveEventGet now).map fun entry => { state with thread := .taken entry }
      | _ => none
  | .handle =>
      match state.thread with
      | .taken entry =>
          if entry.handler.copy.all fun key => !state.locked key.lock then
            some { state.handle entry.handler with thread := .handled entry.timeoutId }
          else none
      | _ => none
  | .drop =>
      match state.thread with
      | .handled timeoutId =>
          some { state with
            timeoutList := TimeoutState.locklessEventRemove state.timeoutList timeoutId
            thread := .waiting }
      | _ => none
  | .lock lock =>
      if state.locked lock then none
      else some { state with locked := Function.update state.locked lock true }
  | .unlock lock =>
      if state.locked lock then
        some { state with locked := Function.update state.locked lock false }
      else none
  | .write key contents =>
      if state.locked key.lock then
        some { state with
          copies := Function.update state.copies key { state.copies key with contents } }
      else none
  | .add handler now delay => some (state.timeoutEventAdd handler now delay)
  | .remove timeoutId => some (state.timeoutEventRemove timeoutId)

/-- `timeout_init`. -/
def timeoutInit (copies : CopyKey → TimedCopy ω) : TimeoutState ω where
  timeoutList := []
  lastTimeoutId := 0
  thread := .waiting
  locked _ := false
  copies := copies

/-! ## Removed timers -/

theorem TimeoutThread.entry_eq_some_iff {thread : TimeoutThread} {entry : TimeoutEntry} :
    thread.entry = some entry ↔ thread = .taken entry := by
  cases thread <;> simp [TimeoutThread.entry]

namespace TimeoutState

/-- No timer whose removal has returned is still to be handled. -/
structure Settled (state : TimeoutState ω) : Prop where
  pending : ∀ entry ∈ state.timeoutList, entry.removed = false
  taken : ∀ entry, state.thread = .taken entry → entry.removed = false

/-- The event removes a timer that the timeout thread has taken and not handled, or one of
several with its identifier. -/
def Overlooks (state : TimeoutState ω) : TimeoutEvent ω → Prop
  | .remove timeoutId =>
      (∃ entry, state.thread = .taken entry ∧ entry.timeoutId = timeoutId) ∨
        1 < state.timeoutList.countP (·.timeoutId = timeoutId)
  | _ => False

end TimeoutState

/-- What a step should keep to: the handler that runs is not that of a removed timer, it
clears no copy but that of its own timer, and no removed timer is left to be handled. -/
structure RemovalKept (before : TimeoutState ω) (event : TimeoutEvent ω)
    (after : TimeoutState ω) : Prop where
  applied : ∀ entry, event = .handle → before.thread = .taken entry → entry.removed = false
  cleared : ∀ key, event = .handle → after.copies key ≠ before.copies key →
    ∃ entry, before.thread = .taken entry ∧ entry.handler.copy = some key ∧
      entry.removed = false
  settled : after.Settled

namespace TimeoutState

variable {state after : TimeoutState ω}

theorem handle_copies_of_ne {handler : TimeoutHandler} {key : CopyKey}
    (hne : handler.copy ≠ some key) : (state.handle handler).copies key = state.copies key := by
  cases handler with
  | alarmCopyClean | mibCopyClean =>
      exact Function.update_of_ne (fun h => hne (congrArg some h.symm)) _ _
  | getNextTblCopyClean table =>
      simp only [handle, getNextTblCopyCleanTimeoutHandler]
      split
      · exact Function.update_of_ne (fun h => hne (congrArg some h.symm)) _ _
      · rfl
  | other => rfl

theorem handle_timeoutList (handler : TimeoutHandler) :
    (state.handle handler).timeoutList = state.timeoutList := by
  cases handler with
  | alarmCopyClean => rfl
  | mibCopyClean => rfl
  | getNextTblCopyClean table =>
      simp only [handle, getNextTblCopyCleanTimeoutHandler]
      split <;> rfl
  | other => rfl

theorem mem_insertEntry {entry new : TimeoutEntry} {timeoutList : List TimeoutEntry} :
    entry ∈ insertEntry new timeoutList ↔ entry = new ∨ entry ∈ timeoutList := by
  induction timeoutList with
  | nil => simp [insertEntry]
  | cons first rest ih =>
      rw [insertEntry]
      split
      · simp
      · rw [List.mem_cons, ih, List.mem_cons]
        tauto

theorem noteEntry_removed {timeoutId : BitVec 32} {entry : TimeoutEntry}
    (hfresh : entry.removed = false) :
    (noteEntry timeoutId entry).removed = false ↔ entry.timeoutId ≠ timeoutId := by
  unfold noteEntry
  split
  · rename_i hsame
    simp [hsame]
  · rename_i hother
    exact iff_of_true hfresh hother

/-- After its removal an identifier is gone from the list exactly if it was there at most
once. -/
theorem not_mem_locklessEventRemove {timeoutId : BitVec 32} {timeoutList : List TimeoutEntry} :
    (∀ entry ∈ locklessEventRemove timeoutList timeoutId, entry.timeoutId ≠ timeoutId) ↔
      timeoutList.countP (·.timeoutId = timeoutId) ≤ 1 := by
  unfold locklessEventRemove
  induction timeoutList with
  | nil => simp
  | cons first rest ih =>
      by_cases hfirst : first.timeoutId = timeoutId
      · rw [List.eraseP_cons_of_pos (by simpa using hfirst),
          List.countP_cons_of_pos (by simpa using hfirst)]
        simp
      · rw [List.eraseP_cons_of_neg (by simpa using hfirst),
          List.countP_cons_of_neg (by simpa using hfirst), ← ih]
        simp [hfirst]

/-- Removing a timer leaves none to be handled exactly if none is overlooked. -/
theorem timeoutEventRemove_settled {timeoutId : BitVec 32} (h : state.Settled) :
    (state.timeoutEventRemove timeoutId).Settled ↔
      ¬ state.Overlooks (.remove timeoutId : TimeoutEvent ω) := by
  have hrest : ∀ entry ∈ locklessEventRemove state.timeoutList timeoutId, entry.removed = false :=
    fun entry hentry => h.pending entry (List.mem_of_mem_eraseP hentry)
  have hpending : (∀ entry ∈ (state.timeoutEventRemove timeoutId).timeoutList,
      entry.removed = false) ↔ state.timeoutList.countP (·.timeoutId = timeoutId) ≤ 1 := by
    rw [← not_mem_locklessEventRemove]
    constructor
    · intro hfresh entry hentry
      exact (noteEntry_removed (hrest entry hentry)).mp
        (hfresh _ (List.mem_map_of_mem hentry))
    · intro hgone entry hentry
      obtain ⟨old, hold, rfl⟩ := List.mem_map.mp hentry
      exact (noteEntry_removed (hrest old hold)).mpr (hgone old hold)
  have htaken : (∀ entry, (state.timeoutEventRemove timeoutId).thread = .taken entry →
      entry.removed = false) ↔ ∀ entry, state.thread = .taken entry →
        entry.timeoutId ≠ timeoutId := by
    simp only [timeoutEventRemove]
    cases hthread : state.thread with
    | waiting => simp [noteThread]
    | taken entry =>
        have hfresh := h.taken entry hthread
        simp [noteThread, noteEntry_removed hfresh]
    | handled other => simp [noteThread]
  rw [Overlooks, not_or, not_lt, not_exists, ← hpending]
  constructor
  · intro hsettled
    exact ⟨fun entry hentry => htaken.mp hsettled.taken entry hentry.1 hentry.2, hsettled.pending⟩
  · rintro ⟨hnot, hfresh⟩
    exact ⟨hfresh, htaken.mpr fun entry hentry hsame => hnot entry ⟨hentry, hsame⟩⟩

/-- A step leaves no removed timer to be handled exactly if it overlooks none. -/
theorem settled_step {event : TimeoutEvent ω} (h : state.Settled)
    (hstep : timeoutStep state event = some after) : after.Settled ↔ ¬ state.Overlooks event := by
  cases event with
  | next now =>
      refine iff_of_true ?_ id
      simp only [timeoutStep] at hstep
      split at hstep
      · obtain ⟨entry, hnext, rfl⟩ := Option.map_eq_some_iff.mp hstep
        refine ⟨h.pending, ?_⟩
        rintro _ ⟨⟩
        apply h.pending
        unfold nextActiveEventGet at hnext
        split at hnext
        · cases hnext
        · rename_i first rest hlist
          obtain ⟨_, hfirst⟩ := Option.ite_none_right_eq_some.mp hnext
          rw [hlist, ← Option.some.inj hfirst]
          exact List.mem_cons_self
      · cases hstep
  | handle =>
      refine iff_of_true ?_ id
      simp only [timeoutStep] at hstep
      split at hstep
      · obtain ⟨_, hafter⟩ := Option.ite_none_right_eq_some.mp hstep
        obtain rfl := Option.some.inj hafter
        refine ⟨?_, nofun⟩
        simpa only [handle_timeoutList] using h.pending
      · cases hstep
  | drop =>
      refine iff_of_true ?_ id
      simp only [timeoutStep] at hstep
      split at hstep
      · obtain rfl := Option.some.inj hstep
        exact ⟨fun entry hentry => h.pending entry (List.mem_of_mem_eraseP hentry), nofun⟩
      · cases hstep
  | lock lock =>
      refine iff_of_true ?_ id
      obtain ⟨_, hafter⟩ := Option.ite_none_left_eq_some.mp hstep
      obtain rfl := Option.some.inj hafter
      exact ⟨h.pending, h.taken⟩
  | unlock lock | write key contents =>
      refine iff_of_true ?_ id
      obtain ⟨_, hafter⟩ := Option.ite_none_right_eq_some.mp hstep
      obtain rfl := Option.some.inj hafter
      exact ⟨h.pending, h.taken⟩
  | add handler now delay =>
      refine iff_of_true ?_ id
      obtain rfl := Option.some.inj hstep
      refine ⟨?_, h.taken⟩
      intro entry hentry
      rcases mem_insertEntry.mp hentry with rfl | hold
      · rfl
      · exact h.pending entry hold
  | remove timeoutId =>
      obtain rfl := Option.some.inj hstep
      exact timeoutEventRemove_settled h

/-- A step from a state without removed timers keeps to what it should. -/
theorem removalKept_iff {event : TimeoutEvent ω} (h : state.Settled)
    (hstep : timeoutStep state event = some after) :
    RemovalKept state event after ↔ after.Settled := by
  constructor
  · exact RemovalKept.settled
  · intro hafter
    refine ⟨fun entry _ hentry => h.taken entry hentry, ?_, hafter⟩
    rintro key rfl hchanged
    simp only [timeoutStep] at hstep
    split at hstep
    · rename_i entry hentry
      obtain ⟨_, hsome⟩ := Option.ite_none_right_eq_some.mp hstep
      obtain rfl := Option.some.inj hsome
      by_cases hkey : entry.handler.copy = some key
      · exact ⟨entry, hentry, hkey, h.taken entry hentry⟩
      · exact absurd (handle_copies_of_ne hkey) hchanged
    · cases hstep

end TimeoutState

/-- In every run the handler of a timer is not called after its removal has returned, and no
copy is cleared by it, if and only if no step removes a timer that the timeout thread has
taken and not handled yet, or one of several with its identifier. -/
theorem timeoutEventRemove_kept_iff (copies : CopyKey → TimedCopy ω)
    (events : List (TimeoutEvent ω)) :
    Along timeoutStep RemovalKept (timeoutInit copies) events ↔
      Along timeoutStep (fun before event _ => ¬ before.Overlooks event) (timeoutInit copies)
        events := by
  have hsettled : (timeoutInit copies).Settled := ⟨nofun, nofun⟩
  refine along_iff_guard ?_ hsettled events
  intro before event after hbefore hstep
  have hafter := TimeoutState.settled_step hbefore hstep
  exact ⟨(TimeoutState.removalKept_iff hbefore hstep).trans hafter, hafter.mpr⟩

/-- The alarm copy is made and its timer falls due; before the handler has the lock, the copy is
made again and the timer replaced. -/
def sampleRecreated : List (TimeoutEvent Nat) :=
  [.lock .alarm, .write .alarm (some 1), .add .alarmCopyClean 0 10, .unlock .alarm, .next 10,
    .lock .alarm, .remove 1, .write .alarm (some 2), .add .alarmCopyClean 10 10, .unlock .alarm,
    .handle]

/-- The removed timer clears the new copy. -/
theorem timeoutEventRemove_not_kept :
    (¬ ∀ events, Along timeoutStep RemovalKept (timeoutInit fun _ => ⟨none, 0⟩)
      (events : List (TimeoutEvent Nat))) ∧
    ((execOn timeoutStep (fun _ _ => True) (timeoutInit fun _ => ⟨none, 0⟩) sampleRecreated).map
      fun state => (state.copies .alarm).contents) = some none := by
  constructor
  · intro hall
    have happlied : Along timeoutStep (fun before event _ => event = .handle →
        ∀ entry ∈ before.thread.entry, entry.removed = false)
        (timeoutInit fun _ => ⟨none, 0⟩) sampleRecreated :=
      (hall sampleRecreated).mono fun _ _ _ hkept hhandle entry hentry =>
        hkept.applied entry hhandle (TimeoutThread.entry_eq_some_iff.mp hentry)
    revert happlied
    decide
  · decide

end FalconGpon.Omci
