/-
# The event queue of the ONU device

The kernel driver keeps events for the OMCI daemon in a ring of 64 slots: `falcon_onu_push_event`
drops the oldest one where there is no room, and the ioctl of the event FIFO takes the oldest one
out and copies it to the caller. `onuStep_refines_iff` proves that the ring is a queue that
drops its oldest event, and for which reads the caller gets what that queue gives.
-/

import FalconGpon.Lib.Buffer
import FalconGpon.Lib.Ring
import FalconGpon.Lib.Transition
import FalconGpon.Lib.Wire

namespace FalconGpon.Onu

open FalconGpon.Lib

/-! ## The ring -/

/-- `ONU_FIFO_DEPTH`. -/
abbrev onuFifoDepth : Nat := 64

/-- The size of the union in `struct onu_fifo_data`. -/
def onuFifoDataSize : Nat := 2048

/-- `sizeof(struct onu_fifo_header)`. -/
def onuFifoHeaderSize : Nat := 8

/-- `struct onu_fifo_data`; of the data the first `onuFifoDataSize` bytes count. -/
structure OnuFifoData where
  id : BitVec 32
  len : BitVec 32
  data : Nat → BitVec 8

/-- `struct falcon_onu_event_ring` without its lock and its wait queue. -/
abbrev FalconOnuEventRing : Type :=
  Ring onuFifoDepth OnuFifoData

/-- `g_onu_ring` before the first event. -/
def gOnuRing : FalconOnuEventRing :=
  ⟨fun _ => ⟨0, 0, fun _ => 0⟩, 0, 0⟩

def eventLen (len : Nat) : Nat :=
  if onuFifoDataSize < len then onuFifoDataSize else len

/-- Fill a slot; the rest of its data stays. -/
def OnuFifoData.fill (entry : OnuFifoData) (id : BitVec 32) (data : Option (Nat → BitVec 8))
    (len : Nat) : OnuFifoData where
  id := id
  len := BitVec.ofNat 32 len
  data :=
    match data with
    | some mem =>
        if 0 < len then patch entry.data 0 (slice mem 0 len) else fun _ => 0
    | none => fun _ => 0

/-- `falcon_onu_push_event`; the data may be missing. -/
def falconOnuPushEvent (ring : FalconOnuEventRing) (id : BitVec 32)
    (data : Option (Nat → BitVec 8)) (len : Nat) : FalconOnuEventRing :=
  ring.pushDrop ((ring.slots ring.head).fill id data (eventLen len))

/-- The bytes of `struct onu_fifo_data`. -/
def OnuFifoData.bytes (ev : OnuFifoData) : List (BitVec 8) :=
  wireBytes 4 ev.id ++ wireBytes 4 ev.len ++ slice ev.data 0 onuFifoDataSize

/-- What the ioctl of the event FIFO returns. -/
inductive OnuReadResult
  /-- `-EAGAIN`. -/
  | again
  /-- `-EFAULT`. -/
  | fault
  | copied (bytes : List (BitVec 8))
deriving DecidableEq

/-- How much of an event is copied: its header and its data, but not more than the size that the
command encodes. -/
def copyLen (ev : OnuFifoData) (size : Nat) : Nat :=
  if 0 < size ∧ size < onuFifoHeaderSize + ev.len.toNat then size
  else onuFifoHeaderSize + ev.len.toNat

/-- The event FIFO read of `falcon_onu_ioctl`; `fault` tells whether `copy_to_user` fails. -/
def falconOnuEventRead (ring : FalconOnuEventRing) (size : Nat) (fault : Bool) :
    OnuReadResult × FalconOnuEventRing :=
  match ring.pop with
  | none => (.again, ring)
  | some (ev, rest) =>
      if fault then (.fault, rest)
      else (.copied (ev.bytes.take (copyLen ev size)), rest)

/-! ## The queue -/

/-- An event as it was pushed, with its payload cut to the slot. -/
structure OnuEvent where
  id : BitVec 32
  payload : List (BitVec 8)
deriving DecidableEq

def OnuEvent.bytes (ev : OnuEvent) : List (BitVec 8) :=
  wireBytes 4 ev.id ++ wireBytes 4 (BitVec.ofNat 32 ev.payload.length) ++ ev.payload

def OnuEvent.pushed (id : BitVec 32) (data : Option (Nat → BitVec 8)) (len : Nat) : OnuEvent :=
  ⟨id, slice (data.getD fun _ => 0) 0 (min len onuFifoDataSize)⟩

abbrev OnuFifo : Type :=
  DropQueue (onuFifoDepth - 1) OnuEvent

/-- What a read of the queue returns; an event that cannot be copied stays. -/
def OnuFifo.read (fifo : OnuFifo) (fault : Bool) : OnuReadResult × OnuFifo :=
  match fifo.queue with
  | [] => (.again, fifo)
  | ev :: _ => if fault then (.fault, fifo) else (.copied ev.bytes, fifo.pop)

/-! ## Runs -/

/-- The ring and the queue side by side. -/
structure OnuRun where
  ring : FalconOnuEventRing
  fifo : OnuFifo

def OnuRun.init : OnuRun := ⟨gOnuRing, .empty⟩

/-- Pushes and reads. -/
inductive OnuOp
  | push (id : BitVec 32) (data : Option (Nat → BitVec 8)) (len : Nat)
  | read (size : Nat) (fault : Bool)

/-- One operation on both. -/
def onuStep (run : OnuRun) : OnuOp → Option OnuRun
  | .push id data len =>
      some ⟨falconOnuPushEvent run.ring id data len, run.fifo.push (.pushed id data len)⟩
  | .read size fault =>
      some ⟨(falconOnuEventRead run.ring size fault).2, (run.fifo.read fault).2⟩

def OnuFifoData.event (ev : OnuFifoData) : OnuEvent :=
  ⟨ev.id, slice ev.data 0 ev.len.toNat⟩

/-- A read returns the same from both. -/
def SameResult (before : OnuRun) : OnuOp → Prop
  | .push _ _ _ => True
  | .read size fault =>
      (falconOnuEventRead before.ring size fault).1 = (before.fifo.read fault).1

/-- The ring holds what the queue holds, and returns what it returns; and the queue is one that
drops its oldest event. -/
structure Refines (before : OnuRun) (op : OnuOp) (after : OnuRun) : Prop where
  contents : after.ring.contents.map OnuFifoData.event = after.fifo.queue
  result : SameResult before op
  fifo : after.fifo.Fifo

/-- A read that finds an event can copy it, and its command has size 0 or one that the header and
the payload fit into. -/
def ReadGuard (before : OnuRun) : OnuOp → Prop
  | .push _ _ _ => True
  | .read size fault =>
      ∀ ev ∈ before.fifo.queue.head?,
        fault = false ∧ (size = 0 ∨ onuFifoHeaderSize + ev.payload.length ≤ size)

/-! ## One slot -/

section

variable {ev entry : OnuFifoData} {id : BitVec 32} {data : Option (Nat → BitVec 8)} {len : Nat}

theorem eventLen_eq (len : Nat) : eventLen len = min len onuFifoDataSize := by
  rw [eventLen]
  split
  · omega
  · omega

theorem eventLen_le (len : Nat) : eventLen len ≤ onuFifoDataSize :=
  eventLen_eq len ▸ Nat.min_le_right _ _

theorem toNat_len_fill : (entry.fill id data (eventLen len)).len.toNat = eventLen len := by
  have hle := eventLen_le len
  rw [onuFifoDataSize] at hle
  exact Nat.mod_eq_of_lt (by omega)

theorem event_fill : (entry.fill id data (eventLen len)).event = .pushed id data len := by
  rw [OnuFifoData.event, toNat_len_fill, OnuEvent.pushed, ← eventLen_eq]
  congr 1
  cases data with
  | none => rfl
  | some mem =>
      by_cases hlen : 0 < eventLen len
      · simp only [OnuFifoData.fill, if_pos hlen, Option.getD_some]
        exact slice_patch_self _ _ _ (length_slice _ _ _)
      · have hzero : eventLen len = 0 := by omega
        rw [hzero]
        rfl

theorem take_bytes (hlen : ev.len.toNat ≤ onuFifoDataSize) :
    ev.bytes.take (onuFifoHeaderSize + ev.len.toNat) = ev.event.bytes := by
  have hheader : (wireBytes 4 ev.id ++ wireBytes 4 ev.len).length = onuFifoHeaderSize := by
    rw [List.length_append, length_wireBytes, length_wireBytes]
    rfl
  have hpayload : ev.event.payload.length = ev.len.toNat := length_slice _ _ _
  rw [OnuFifoData.bytes, OnuEvent.bytes, hpayload, BitVec.ofNat_toNat, BitVec.setWidth_eq,
    ← hheader, List.take_length_add_append, take_slice _ _ hlen]
  rfl

/-- A read copies the whole event exactly if the command leaves room for it. -/
theorem copied_eq_iff (hlen : ev.len.toNat ≤ onuFifoDataSize) (size : Nat) :
    ev.bytes.take (copyLen ev size) = ev.event.bytes ↔
      size = 0 ∨ onuFifoHeaderSize + ev.event.payload.length ≤ size := by
  have hpayload : ev.event.payload.length = ev.len.toNat := length_slice _ _ _
  rw [hpayload, copyLen]
  split
  · rename_i hshort
    constructor
    · intro heq
      have hlengths := congrArg List.length heq
      rw [← take_bytes hlen, List.length_take, List.length_take] at hlengths
      have hall : ev.bytes.length = onuFifoHeaderSize + onuFifoDataSize := by
        rw [OnuFifoData.bytes, List.length_append, List.length_append, length_wireBytes,
          length_wireBytes, length_slice]
        rfl
      omega
    · intro hroom
      omega
  · rename_i hroom
    refine iff_of_true (take_bytes hlen) ?_
    omega

end

/-! ## One operation -/

/-- The queue holds what the ring holds. -/
structure RingInv (run : OnuRun) : Prop where
  contents : run.ring.contents.map OnuFifoData.event = run.fifo.queue
  len : ∀ ev ∈ run.ring.contents, ev.len.toNat ≤ onuFifoDataSize
  fifo : run.fifo.Fifo

section

variable {run : OnuRun}

theorem RingInv.push (h : RingInv run) (id : BitVec 32) (data : Option (Nat → BitVec 8))
    (len : Nat) :
    RingInv ⟨falconOnuPushEvent run.ring id data len, run.fifo.push (.pushed id data len)⟩ := by
  have hcontents := run.ring.contents_pushDrop
    ((run.ring.slots run.ring.head).fill id data (eventLen len))
  constructor
  case contents =>
      rw [falconOnuPushEvent, hcontents, DropQueue.push, ← h.contents, List.rtake, List.rtake,
        List.map_drop, List.map_append, List.map_singleton, event_fill, List.length_append,
        List.length_append, List.length_map, List.length_singleton, List.length_singleton]
  case len =>
      intro ev hev
      rw [falconOnuPushEvent, hcontents] at hev
      rcases List.mem_append.mp (List.mem_of_mem_drop hev) with hold | hnew
      · exact h.len ev hold
      · rw [List.mem_singleton.mp hnew, toNat_len_fill]
        exact eventLen_le len
  case fifo => exact h.fifo.push _

/-- A read keeps ring and queue together exactly under the guard. -/
theorem RingInv.read (h : RingInv run) (size : Nat) (fault : Bool) : (Refines run (.read size fault)
        ⟨(falconOnuEventRead run.ring size fault).2, (run.fifo.read fault).2⟩ ↔
      ReadGuard run (.read size fault)) ∧ (ReadGuard run (.read size fault) →
      RingInv ⟨(falconOnuEventRead run.ring size fault).2, (run.fifo.read fault).2⟩) := by
  cases hpop : run.ring.pop with
  | none =>
      have hempty : run.fifo.queue = [] := by
        rw [← h.contents, run.ring.pop_eq_none_iff.mp hpop, List.map_nil]
      have hring : falconOnuEventRead run.ring size fault = (.again, run.ring) := by
        rw [falconOnuEventRead, hpop]
      have hfifo : run.fifo.read fault = (.again, run.fifo) := by
        rw [OnuFifo.read, hempty]
      have hguard : ReadGuard run (.read size fault) := by
        rw [ReadGuard, hempty]
        exact nofun
      rw [hring, hfifo]
      refine ⟨iff_of_true ⟨h.contents, ?_, h.fifo⟩ hguard, fun _ => h⟩
      rw [SameResult, hring, hfifo]
  | some next =>
      obtain ⟨ev, rest⟩ := next
      have hcontents := Ring.contents_pop hpop
      have hqueue : run.fifo.queue = ev.event :: rest.contents.map OnuFifoData.event := by
        rw [← h.contents, hcontents, List.map_cons]
      have hlen : ev.len.toNat ≤ onuFifoDataSize :=
        h.len ev (hcontents ▸ List.mem_cons_self)
      have hguard : ReadGuard run (.read size fault) ↔
          fault = false ∧ (size = 0 ∨ onuFifoHeaderSize + ev.event.payload.length ≤ size) := by
        rw [ReadGuard, hqueue, List.head?_cons]
        simp
      rw [hguard]
      cases fault with
      | true =>
          have hring : falconOnuEventRead run.ring size true = (.fault, rest) := by
            rw [falconOnuEventRead, hpop]
            rfl
          have hfifo : run.fifo.read true = (.fault, run.fifo) := by
            rw [OnuFifo.read, hqueue]
            rfl
          rw [hring, hfifo]
          constructor
          · refine iff_of_false (fun hrefines => ?_) (fun hcopy => Bool.noConfusion hcopy.1)
            -- the event is gone from the ring and still in the queue
            have hsame : rest.contents.map OnuFifoData.event =
                ev.event :: rest.contents.map OnuFifoData.event := hrefines.contents.trans hqueue
            exact absurd hsame.symm (List.cons_ne_self _ _)
          · intro hcopy
            exact Bool.noConfusion hcopy.1
      | false =>
          have hring : falconOnuEventRead run.ring size false =
              (.copied (ev.bytes.take (copyLen ev size)), rest) := by
            rw [falconOnuEventRead, hpop]
            rfl
          have hfifo : run.fifo.read false = (.copied ev.event.bytes, run.fifo.pop) := by
            rw [OnuFifo.read, hqueue]
            rfl
          have hrest : rest.contents.map OnuFifoData.event = run.fifo.pop.queue := by
            rw [DropQueue.pop, hqueue]
          have hafter : RingInv ⟨rest, run.fifo.pop⟩ :=
            ⟨hrest, fun other hother => h.len other (hcontents ▸ List.mem_cons_of_mem _ hother),
              h.fifo.pop⟩
          have hresult : SameResult run (.read size false) ↔
              size = 0 ∨ onuFifoHeaderSize + ev.event.payload.length ≤ size := by
            rw [SameResult, hring, hfifo, OnuReadResult.copied.injEq, copied_eq_iff hlen]
          rw [hring, hfifo]
          constructor
          · rw [and_iff_right rfl, ← hresult]
            exact ⟨fun hrefines => hrefines.result, fun hsame =>
              ⟨hafter.contents, hsame, hafter.fifo⟩⟩
          · intro _
            exact hafter

end

/-- The ring refines the queue along a run exactly if every read meets the guard. -/
theorem onuStep_refines_iff (ops : List OnuOp) :
    Along onuStep Refines .init ops ↔
      Along onuStep (fun before op _ => ReadGuard before op) .init ops := by
  have hinit : RingInv .init := ⟨rfl, nofun, DropQueue.fifo_empty⟩
  refine along_iff_guard (fun before op after hinv hnext => ?_) hinit ops
  cases op with
  | push id data len =>
      cases hnext
      have hafter := hinv.push id data len
      exact ⟨iff_of_true ⟨hafter.contents, trivial, hafter.fifo⟩ trivial, fun _ => hafter⟩
  | read size fault =>
      cases hnext
      exact hinv.read size fault

/-- A state change is pushed and read with the command of the event FIFO, whose size is that of
the header. -/
theorem onuStep_not_refines :
    ¬Along onuStep Refines .init
      [.push 3 (some fun i => BitVec.ofNat 8 i) 12, .read onuFifoHeaderSize false] := by
  intro h
  have hread : SameResult _ (.read onuFifoHeaderSize false) := h.2.1.result
  revert hread
  rw [SameResult]
  decide

end FalconGpon.Onu
