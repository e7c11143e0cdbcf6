/-
# Transmission through the packet buffer

`falcon_net_pdu_write` takes one segment of 64 bytes from the Free Segment Queue Manager,
copies the frame to it, waits for room in the FIFO of the Link Engine and hands over a
descriptor, or gives the segment back. `dma_kept_iff`: over all runs of transmissions and
completions, frames stay inside their segments, arrive as they were given, and every segment
taken is handed over or given back once, exactly if no frame that gets a segment is longer
than 64 bytes. The length of a frame is never compared with the size of a segment.

The hardware is the environment: which segment the queue manager hands out, what the status
register of the FIFO reads and when a frame has been sent.
-/

import Mathlib.Data.Finset.Basic
import FalconGpon.Lib.Buffer
import FalconGpon.Lib.Transition

namespace FalconGpon.Gpe

open FalconGpon.Lib

abbrev Byte := BitVec 8

abbrev Segment := BitVec 16

/-- `FALCON_SRAM_SEGMENT_SIZE`. -/
def falconSramSegmentSize : Nat := 64

/-- `FALCON_FSQM_NULL_SEGMENT`. -/
def falconFsqmNullSegment : Segment := 0x7FFF

def segmentStart (seg : Segment) : Nat := seg.toNat <<< 6

/-- `struct falcon_dma_desc`. -/
structure FalconDmaDesc where
  word0 : BitVec 32
  word1 : BitVec 32
  word2 : BitVec 32
  word3 : BitVec 32
deriving DecidableEq

namespace FalconDmaDesc

def segment (desc : FalconDmaDesc) : Segment := (desc.word0 >>> 16).setWidth 16

def length (desc : FalconDmaDesc) : Nat := (desc.word0 &&& 0xFFFF).toNat

/-- The descriptor of a frame in a single segment. -/
def single (seg : Segment) (len : BitVec 32) : FalconDmaDesc where
  word0 := (seg.setWidth 32 <<< 16) ||| (len &&& 0xFFFF)
  word1 := 0x00010000
  word2 := falconFsqmNullSegment.setWidth 32 <<< 16
  word3 := 0

end FalconDmaDesc

/-- What the driver does to the hardware, in order. -/
inductive DmaAccess
  | allocSegment (seg : Segment)
  | freeSegment (seg : Segment)
  | memcpyToio (dest : Nat) (data : List Byte)
  | pushDescriptor (desc : FalconDmaDesc)
deriving DecidableEq

/-- The return codes of `falcon_net_pdu_write`. -/
inductive PduWriteReturn
  | success
  | einval
  | enomem
  | ebusy
deriving DecidableEq

/-- The wait for a free slot of the FIFO: what is left of the timeout. `polls timeout` is the
status read with so many attempts left. -/
def linkFifoWait (polls : Nat → BitVec 32) : Nat → Nat
  | 0 => 0
  | timeout + 1 =>
      if polls (timeout + 1) &&& 0x1F ≠ 0 then timeout + 1 else linkFifoWait polls timeout

/-- `falcon_net_pdu_write`, given the word read from the queue manager and the status words of
the FIFO. -/
def falconNetPduWrite (data : Option (List Byte)) (word : BitVec 32)
    (polls : Nat → BitVec 32) : PduWriteReturn × List DmaAccess :=
  match data with
  | none => (.einval, [])
  | some frame =>
      let seg := (word &&& 0x7FFF).setWidth 16
      if frame.length = 0 then (.einval, [])
      else if seg = falconFsqmNullSegment then (.enomem, [.allocSegment seg])
      else if linkFifoWait polls 1000 = 0 then
        (.ebusy, [.allocSegment seg, .memcpyToio (segmentStart seg) frame, .freeSegment seg])
      else
        (.success, [.allocSegment seg, .memcpyToio (segmentStart seg) frame,
          .pushDescriptor (.single seg (BitVec.ofNat 32 frame.length))])

/-- A frame handed to the Link Engine. -/
structure Flight where
  desc : FalconDmaDesc
  /-- The frame the driver was given. -/
  frame : List Byte
deriving DecidableEq

/-- The packet buffer and the hardware queues. -/
structure Dma where
  sram : Nat → Byte
  /-- The segments the queue manager has to give. -/
  free : Finset Segment
  /-- The frames handed over and not yet sent. -/
  fifo : List Flight

namespace Dma

/-- The state before the first frame. -/
def init (sram : Nat → Byte) (free : Finset Segment) : Dma where
  sram := sram
  free := free
  fifo := []

/-- What the hardware makes of an access that transmits `frame`. -/
def access (dma : Dma) (frame : List Byte) : DmaAccess → Dma
  | .allocSegment seg => { dma with free := dma.free.erase seg }
  | .freeSegment seg => { dma with free := insert seg dma.free }
  | .memcpyToio dest data => { dma with sram := patch dma.sram dest data }
  | .pushDescriptor desc => { dma with fifo := dma.fifo ++ [⟨desc, frame⟩] }

end Dma

def transmitted (sram : Nat → Byte) (desc : FalconDmaDesc) : List Byte :=
  slice sram (segmentStart desc.segment) (min desc.length falconSramSegmentSize)

inductive DmaEvent
  /-- `falcon_net_pdu_write` of a frame. -/
  | write (data : Option (List Byte)) (word : BitVec 32) (polls : Nat → BitVec 32)
  /-- The Link Engine has sent a frame and returns its segment. -/
  | complete (index : Nat)

/-- The queue manager hands out a segment it has, or none. -/
def dmaStep (dma : Dma) : DmaEvent → Option Dma
  | .write data word polls =>
      let seg := (word &&& 0x7FFF).setWidth 16
      if seg = falconFsqmNullSegment ∨ seg ∈ dma.free then
        some ((falconNetPduWrite data word polls).2.foldl (Dma.access · (data.getD [])) dma)
      else none
  | .complete index =>
      match dma.fifo[index]? with
      | none => none
      | some flight =>
          some { dma with
            free := insert flight.desc.segment dma.free
            fifo := dma.fifo.eraseIdx index }

def Flight.Apart (flight other : Flight) : Prop :=
  segmentStart flight.desc.segment + flight.frame.length ≤ segmentStart other.desc.segment ∨
  segmentStart other.desc.segment + other.frame.length ≤ segmentStart flight.desc.segment

/-- The accesses stay inside the segment taken, and hand it over or give it back once. -/
structure Isolated (accesses : List DmaAccess) : Prop where
  inside : ∀ dest data, .memcpyToio dest data ∈ accesses →
    ∃ seg, .allocSegment seg ∈ accesses ∧ segmentStart seg ≤ dest ∧
      dest + data.length ≤ segmentStart seg + falconSramSegmentSize
  once : ∀ seg, .allocSegment seg ∈ accesses → seg ≠ falconFsqmNullSegment →
    accesses.countP (fun access => match access with
      | .freeSegment other => other = seg
      | .pushDescriptor desc => desc.segment = seg
      | _ => false) = 1

/-- A step keeps frames apart and unchanged. -/
structure DmaKept (before : Dma) (event : DmaEvent) (after : Dma) : Prop where
  isolated : ∀ data word polls, event = .write data word polls →
    Isolated (falconNetPduWrite data word polls).2
  apart : after.fifo.Pairwise Flight.Apart
  asGiven : ∀ flight ∈ after.fifo, transmitted after.sram flight.desc = flight.frame
  sent : ∀ index flight, event = .complete index → before.fifo[index]? = some flight →
    transmitted before.sram flight.desc = flight.frame

/-- A frame that gets a segment fits into it. -/
def DmaGuard (_before : Dma) : DmaEvent → Prop
  | .write data word _ =>
      ∀ frame, data = some frame → (word &&& 0x7FFF).setWidth 16 ≠ falconFsqmNullSegment →
        frame.length ≤ falconSramSegmentSize
  | .complete _ => True

theorem getLsbD_mask16 (i : Nat) : (0xFFFF#32).getLsbD i = decide (i < 16) := by
  have hmask : (0xFFFF#32) = (BitVec.allOnes 16).setWidth 32 := by decide
  rw [hmask, BitVec.getLsbD_setWidth, BitVec.getLsbD_allOnes]
  by_cases hi : i < 16
  · have hi' : i < 32 := by omega
    simp [hi, hi']
  · simp [hi]

namespace FalconDmaDesc

@[simp]
theorem segment_single (seg : Segment) (len : BitVec 32) : (single seg len).segment = seg := by
  apply BitVec.eq_of_getLsbD_eq
  intro i hi
  have hnotLow : ¬ 16 + i < 16 := by omega
  have hword : 16 + i < 32 := by omega
  have hhigh : 16 + i - 16 = i := by omega
  have hi' : i < 32 := by omega
  simp only [segment, single, BitVec.getLsbD_setWidth, BitVec.getLsbD_ushiftRight,
    BitVec.getLsbD_or, BitVec.getLsbD_shiftLeft, BitVec.getLsbD_and, BitVec.ofNat_eq_ofNat,
    getLsbD_mask16]
  simp [hnotLow, hword, hhigh, hi, hi']

theorem length_single (seg : Segment) (len : BitVec 32) :
    (single seg len).length = len.toNat % 65536 := by
  have hlow : ((seg.setWidth 32 <<< 16) ||| (len &&& 0xFFFF)) &&& 0xFFFF = len &&& 0xFFFF := by
    apply BitVec.eq_of_getLsbD_eq
    intro i hi
    simp only [BitVec.getLsbD_setWidth, BitVec.getLsbD_or, BitVec.getLsbD_shiftLeft,
      BitVec.getLsbD_and, BitVec.ofNat_eq_ofNat, getLsbD_mask16]
    by_cases hi16 : i < 16 <;> simp [hi16]
  rw [length, single, hlow, BitVec.toNat_and]
  exact Nat.and_two_pow_sub_one_eq_mod len.toNat 16

end FalconDmaDesc

theorem segmentStart_eq (seg : Segment) : segmentStart seg = seg.toNat * 64 := by
  rw [segmentStart, Nat.shiftLeft_eq]

theorem segmentStart_apart {seg other : Segment} (hne : seg ≠ other) :
    segmentStart seg + falconSramSegmentSize ≤ segmentStart other ∨
    segmentStart other + falconSramSegmentSize ≤ segmentStart seg := by
  have hnat : seg.toNat ≠ other.toNat := fun h => hne (BitVec.eq_of_toNat_eq h)
  rw [segmentStart_eq, segmentStart_eq, falconSramSegmentSize]
  omega

/-- The frames in flight have segments of their own, fit into them and are stored there. -/
structure Dma.Inv (dma : Dma) : Prop where
  busy : ∀ flight ∈ dma.fifo, flight.desc.segment ∉ dma.free
  distinct : (dma.fifo.map fun flight => flight.desc.segment).Nodup
  fits : ∀ flight ∈ dma.fifo, flight.frame.length ≤ falconSramSegmentSize
  length : ∀ flight ∈ dma.fifo, flight.desc.length = flight.frame.length
  stored : ∀ flight ∈ dma.fifo,
    slice dma.sram (segmentStart flight.desc.segment) flight.frame.length = flight.frame

namespace Dma.Inv

variable {dma : Dma} {seg : Segment} {frame : List Byte}

theorem init (sram : Nat → Byte) (free : Finset Segment) : (Dma.init sram free).Inv where
  busy flight h := by cases h
  distinct := .nil
  fits flight h := by cases h
  length flight h := by cases h
  stored flight h := by cases h

theorem apart (h : dma.Inv) : dma.fifo.Pairwise Flight.Apart := by
  have hne : dma.fifo.Pairwise fun flight other =>
      flight.desc.segment ≠ other.desc.segment := List.pairwise_map.mp h.distinct
  apply hne.imp_of_mem
  intro flight other hflight hother hsegment
  have hfits := h.fits flight hflight
  have hfits' := h.fits other hother
  cases segmentStart_apart hsegment with
  | inl hbefore => exact .inl (by omega)
  | inr hafter => exact .inr (by omega)

theorem asGiven (h : dma.Inv) {flight : Flight} (hflight : flight ∈ dma.fifo) :
    transmitted dma.sram flight.desc = flight.frame := by
  rw [transmitted, h.length flight hflight, Nat.min_eq_left (h.fits flight hflight)]
  exact h.stored flight hflight

theorem withFree (h : dma.Inv) {free : Finset Segment}
    (hfree : ∀ flight ∈ dma.fifo, flight.desc.segment ∉ free) :
    { dma with free := free }.Inv :=
  { h with busy := hfree }

theorem store (h : dma.Inv) (hseg : ∀ flight ∈ dma.fifo, flight.desc.segment ≠ seg)
    (hframe : frame.length ≤ falconSramSegmentSize) :
    { dma with sram := patch dma.sram (segmentStart seg) frame }.Inv :=
  { h with
    stored := by
      intro flight hflight
      have hfits := h.fits flight hflight
      rw [slice_patch_of_disjoint, h.stored flight hflight]
      cases segmentStart_apart (hseg flight hflight) with
      | inl hbefore => exact .inl (by omega)
      | inr hafter => exact .inr (by omega) }

/-- Handing over a frame that is stored in a segment not yet in flight. -/
theorem push (h : dma.Inv) (hseg : ∀ flight ∈ dma.fifo, flight.desc.segment ≠ seg)
    (hbusy : seg ∉ dma.free) (hframe : frame.length ≤ falconSramSegmentSize)
    (hstored : slice dma.sram (segmentStart seg) frame.length = frame) :
    (dma.access frame (.pushDescriptor (.single seg (BitVec.ofNat 32 frame.length)))).Inv where
  busy := by
    intro flight hflight
    cases List.mem_append.mp hflight with
    | inl hold => exact h.busy flight hold
    | inr hnew =>
        rw [List.mem_singleton.mp hnew, FalconDmaDesc.segment_single]
        exact hbusy
  distinct := by
    rw [Dma.access, List.map_append, List.nodup_append]
    refine ⟨h.distinct, List.nodup_singleton _, ?_⟩
    intro old hold new hnew
    obtain ⟨flight, hflight, rfl⟩ := List.mem_map.mp hold
    rw [List.map_singleton, List.mem_singleton, FalconDmaDesc.segment_single] at hnew
    rw [hnew]
    exact hseg flight hflight
  fits := by
    intro flight hflight
    cases List.mem_append.mp hflight with
    | inl hold => exact h.fits flight hold
    | inr hnew =>
        rw [List.mem_singleton.mp hnew]
        exact hframe
  length := by
    intro flight hflight
    cases List.mem_append.mp hflight with
    | inl hold => exact h.length flight hold
    | inr hnew =>
        rw [falconSramSegmentSize] at hframe
        rw [List.mem_singleton.mp hnew, FalconDmaDesc.length_single, BitVec.toNat_ofNat]
        dsimp only
        omega
  stored := by
    intro flight hflight
    cases List.mem_append.mp hflight with
    | inl hold => exact h.stored flight hold
    | inr hnew =>
        rw [List.mem_singleton.mp hnew, FalconDmaDesc.segment_single]
        exact hstored

/-- A frame that has been sent gives its segment back. -/
theorem complete (h : dma.Inv) {index : Nat} {flight : Flight}
    (hflight : dma.fifo[index]? = some flight) :
    { dma with
      free := insert flight.desc.segment dma.free
      fifo := dma.fifo.eraseIdx index }.Inv where
  busy := by
    intro other hother hfree
    have hold := List.mem_of_mem_eraseIdx hother
    cases Finset.mem_insert.mp hfree with
    | inr hin => exact h.busy other hold hin
    | inl hsame =>
        obtain ⟨place, hplace, hget⟩ := List.mem_eraseIdx_iff_getElem?.mp hother
        have hfirst : (dma.fifo.map fun flight => flight.desc.segment)[index]? =
            some flight.desc.segment := by
          rw [List.getElem?_map, hflight]
          rfl
        have hsecond : (dma.fifo.map fun flight => flight.desc.segment)[place]? =
            some flight.desc.segment := by
          rw [List.getElem?_map, hget, ← hsame]
          rfl
        have hlt := (List.getElem?_eq_some_iff.mp hfirst).1
        exact hplace ((List.getElem?_inj hlt h.distinct).mp (hfirst.trans hsecond.symm)).symm
  distinct := by
    rw [← List.eraseIdx_map]
    exact h.distinct.sublist (List.eraseIdx_sublist _ _)
  fits other hother := h.fits other (List.mem_of_mem_eraseIdx hother)
  length other hother := h.length other (List.mem_of_mem_eraseIdx hother)
  stored other hother := h.stored other (List.mem_of_mem_eraseIdx hother)

end Dma.Inv

theorem Isolated.nil : Isolated [] where
  inside dest data h := by cases h
  once seg h := by cases h

/-- A call stays inside the segment it takes exactly if the frame fits; it hands the segment
over or gives it back in any case. -/
theorem isolated_iff {data : Option (List Byte)} {word : BitVec 32} {polls : Nat → BitVec 32} :
    Isolated (falconNetPduWrite data word polls).2 ↔
      ∀ frame, data = some frame → (word &&& 0x7FFF).setWidth 16 ≠ falconFsqmNullSegment →
        frame.length ≤ falconSramSegmentSize := by
  generalize hseg : (word &&& 0x7FFF).setWidth 16 = seg
  cases data with
  | none => exact ⟨fun _ => nofun, fun _ => .nil⟩
  | some frame =>
      rw [falconNetPduWrite, hseg]
      by_cases hempty : frame.length = 0
      · rw [if_pos hempty]
        refine ⟨fun _ other hother _ => ?_, fun _ => .nil⟩
        rw [← Option.some.inj hother, hempty]
        exact Nat.zero_le _
      rw [if_neg hempty]
      by_cases hnull : seg = falconFsqmNullSegment
      · rw [if_pos hnull]
        refine ⟨fun _ other _ hsome => absurd hnull hsome, fun _ => ⟨?_, ?_⟩⟩
        · intro dest data hmem
          simp at hmem
        · intro other hmem hsome
          simp only [List.mem_singleton, DmaAccess.allocSegment.injEq] at hmem
          exact absurd (hmem.trans hnull) hsome
      · rw [if_neg hnull]
        -- both ways out store the frame and then settle the segment once
        have hboth : ∀ settle, (∀ other, settle ≠ .allocSegment other) →
            (∀ dest data, settle ≠ .memcpyToio dest data) →
            [settle].countP (fun access => match access with
              | .freeSegment other => other = seg
              | .pushDescriptor desc => desc.segment = seg
              | _ => false) = 1 →
            (Isolated [.allocSegment seg, .memcpyToio (segmentStart seg) frame, settle] ↔
              ∀ other, some frame = some other → seg ≠ falconFsqmNullSegment →
                other.length ≤ falconSramSegmentSize) := by
          intro settle hsettle hnoStore hcount
          constructor
          · intro hisolated other hother _
            obtain ⟨taken, htaken, _, hend⟩ :=
              hisolated.inside (segmentStart seg) frame (by simp)
            have hsame : taken = seg := by simpa [(hsettle taken).symm] using htaken
            rw [hsame, Option.some.inj hother] at hend
            omega
          · intro hfits
            have hlength := hfits frame rfl hnull
            constructor
            · intro dest data hmem
              refine ⟨seg, by simp, ?_⟩
              simp only [List.mem_cons, DmaAccess.memcpyToio.injEq, reduceCtorEq,
                (hnoStore dest data).symm, List.not_mem_nil, or_false, false_or] at hmem
              rw [hmem.1, hmem.2]
              exact ⟨le_refl _, Nat.add_le_add_left hlength _⟩
            · intro other hmem _
              have hsame : other = seg := by simpa [(hsettle other).symm] using hmem
              rw [hsame, List.countP_cons_of_neg (by simp), List.countP_cons_of_neg (by simp)]
              exact hcount
        by_cases hwait : linkFifoWait polls 1000 = 0
        · rw [if_pos hwait]
          exact hboth _ nofun nofun (by simp)
        · rw [if_neg hwait]
          exact hboth _ nofun nofun (by simp)

/-- A transmission whose frame fits keeps the invariant. -/
theorem Dma.Inv.write {dma after : Dma} (h : dma.Inv) {data : Option (List Byte)}
    {word : BitVec 32} {polls : Nat → BitVec 32} (hguard : DmaGuard dma (.write data word polls))
    (hstep : dmaStep dma (.write data word polls) = some after) : after.Inv := by
  rw [dmaStep] at hstep
  have hgranted := (Option.ite_none_right_eq_some.mp hstep).1
  rw [← Option.some.inj (Option.ite_none_right_eq_some.mp hstep).2]
  rw [DmaGuard] at hguard
  generalize hseg : (word &&& 0x7FFF).setWidth 16 = seg at hgranted hguard
  cases data with
  | none => exact h
  | some frame =>
      have herase : (dma.access frame (.allocSegment seg)).Inv :=
        h.withFree fun flight hflight hin =>
          h.busy flight hflight (Finset.mem_of_mem_erase hin)
      rw [falconNetPduWrite, hseg]
      by_cases hempty : frame.length = 0
      · rw [if_pos hempty]
        exact h
      rw [if_neg hempty]
      by_cases hnull : seg = falconFsqmNullSegment
      · rw [if_pos hnull]
        exact herase
      · rw [if_neg hnull]
        have hfree : seg ∈ dma.free := hgranted.resolve_left hnull
        have hlength := hguard frame rfl hnull
        have hother : ∀ flight ∈ dma.fifo, flight.desc.segment ≠ seg := by
          rintro flight hflight rfl
          exact h.busy flight hflight hfree
        have hstored := herase.store hother hlength
        by_cases hwait : linkFifoWait polls 1000 = 0
        · rw [if_pos hwait]
          apply hstored.withFree
          intro flight hflight hin
          cases Finset.mem_insert.mp hin with
          | inl hsame => exact hother flight hflight hsame
          | inr hold => exact herase.busy flight hflight hold
        · rw [if_neg hwait]
          exact hstored.push hother (Finset.notMem_erase _ _) hlength (slice_patch_self _ _ _ rfl)

/-- Over all runs of transmissions and completions, frames stay inside their segments and apart
from each other, are sent as they were given and every segment is settled once, exactly if no
frame that gets a segment is longer than it. -/
theorem dma_kept_iff (sram : Nat → Byte) (free : Finset Segment) (events : List DmaEvent) :
    Along dmaStep DmaKept (Dma.init sram free) events ↔
      Along dmaStep (fun before event _ => DmaGuard before event) (Dma.init sram free) events := by
  refine along_iff_guard ?_ (Dma.Inv.init sram free) events
  intro before event after hbefore hstep
  cases event with
  | write data word polls =>
      constructor
      · constructor
        · intro hkept
          exact isolated_iff.mp (hkept.isolated data word polls rfl)
        · intro hguard
          have hafter := hbefore.write hguard hstep
          exact
            { isolated := by
                rintro _ _ _ ⟨⟩
                exact isolated_iff.mpr hguard
              apart := hafter.apart
              asGiven := fun flight hflight => hafter.asGiven hflight
              sent := nofun }
      · exact fun hguard => hbefore.write hguard hstep
  | complete index =>
      rw [dmaStep] at hstep
      cases hflight : before.fifo[index]? with
      | none => simp [hflight] at hstep
      | some flight =>
          rw [hflight] at hstep
          have hafter := hbefore.complete hflight
          rw [Option.some.inj hstep] at hafter
          refine ⟨⟨fun _ => trivial, fun _ => ?_⟩, fun _ => hafter⟩
          exact
            { isolated := nofun
              apart := hafter.apart
              asGiven := fun flight hflight => hafter.asGiven hflight
              sent := by
                rintro _ other ⟨⟩ hother
                rw [hflight] at hother
                cases hother
                exact hbefore.asGiven (List.mem_of_getElem? hflight) }

/-- A frame of 65 bytes reaches into the next segment. -/
theorem not_dma_kept :
    ¬ ∀ events, Along dmaStep DmaKept (Dma.init (fun _ => 0) {1, 2}) events := by
  intro hkept
  have hrun := hkept [.write (some (List.replicate 65 0)) 1 fun _ => 1]
  have hisolated := hrun.1.isolated _ _ _ rfl
  have hfits := isolated_iff.mp hisolated _ rfl (by decide)
  rw [List.length_replicate] at hfits
  exact absurd hfits (by decide)

end FalconGpon.Gpe
