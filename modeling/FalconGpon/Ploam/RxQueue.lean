/-
# The receive ring as a queue

`PloamQueue` is what the ring is for: the messages for this ONU wait, up to 64 of them, in
the order of their arrival, and the worker handles the oldest. `RxRun` lets a context and
such a queue see the same events. The ring refines the queue in every run whose
interrupts find room for one entry less than it has slots, read no message for another
ONU before the last one, and read none at all while no ONU-ID is assigned
(`rxQueue_refines`): the filter stops the loop, and the entry that fills the last slot
makes the ring look empty.
-/

import FalconGpon.Ploam.Chart

namespace FalconGpon.Ploam

open FalconGpon.Lib

def PloamMsg.Addressed (assignedOnuId : U8) (msg : PloamMsg) : Prop :=
  msg.onuId = broadcastOnuId ∨ msg.onuId = assignedOnuId

instance (assignedOnuId : U8) : DecidablePred (PloamMsg.Addressed assignedOnuId) :=
  fun _ => inferInstanceAs (Decidable (_ ∨ _))

theorem PloamMsg.Addressed.passes {assignedOnuId : U8} {msg : PloamMsg}
    (h : msg.Addressed assignedOnuId) : msg.Passes assignedOnuId := by
  rintro ⟨hbroadcast, hother, _⟩
  rcases h with h | h
  · exact hbroadcast h
  · exact hother h

/-! The loop of the interrupt. -/

/-- Reading up to the first rejected entry leaves nothing behind exactly if no other one
comes before the last. -/
theorem tail_dropWhile_eq_nil_iff {α : Type*} {p : α → Bool} {entries : List α} :
    (entries.dropWhile p).tail = [] ↔ ∀ entry ∈ entries.dropLast, p entry = true := by
  induction entries with
  | nil => simp
  | cons entry entries ih =>
      cases hp : p entry with
      | true =>
          cases entries with
          | nil => simp [hp]
          | cons next rest =>
              rw [List.dropWhile_cons, if_pos hp, ih, List.dropLast_cons_cons,
                List.forall_mem_cons]
              simp [hp]
      | false =>
          rw [List.dropWhile_cons, if_neg (by simp [hp]), List.tail_cons]
          cases entries with
          | nil => simp
          | cons next rest => simp [hp]

theorem takeWhile_eq_filter_of_dropLast {α : Type*} {p : α → Bool} {entries : List α}
    (h : ∀ entry ∈ entries.dropLast, p entry = true) : entries.takeWhile p = entries.filter p := by
  induction entries with
  | nil => rfl
  | cons entry entries ih =>
      cases entries with
      | nil => cases hp : p entry <;> simp [hp]
      | cons next rest =>
          rw [List.dropLast_cons_cons, List.forall_mem_cons] at h
          rw [List.takeWhile_cons, if_pos h.1, List.filter_cons, if_pos h.1, ih h.2]

theorem rxLoop_eq (assignedOnuId : U8) (fifo : List PloamWords) (rxQueue : Ring 64 PloamMsg) :
    rxLoop assignedOnuId fifo rxQueue =
      ((fifo.dropWhile fun words => words.msg.Passes assignedOnuId).tail,
        rxQueue.pushAll
          ((fifo.takeWhile fun words => words.msg.Passes assignedOnuId).map PloamWords.msg)) := by
  induction fifo generalizing rxQueue with
  | nil => rfl
  | cons words fifo ih =>
      by_cases hpasses : words.msg.Passes assignedOnuId
      · simp [rxLoop, gtcPloamRd, hpasses, ih, Ring.pushAll]
      · simp [rxLoop, gtcPloamRd, hpasses, Ring.pushAll]

/-! The queue. -/

/-- What the ring stands for. -/
structure PloamQueue where
  /-- Messages waiting for the worker, the oldest first. -/
  pending : List PloamMsg
  /-- Messages handled, in order. -/
  handled : List PloamMsg
  /-- Messages for this ONU that have arrived, in order. -/
  arrived : List PloamMsg
deriving DecidableEq

def PloamQueue.put (queue : PloamQueue) (msgs : List PloamMsg) : PloamQueue :=
  { queue with pending := (queue.pending ++ msgs).take 64, arrived := queue.arrived ++ msgs }

def PloamQueue.handle (queue : PloamQueue) : PloamQueue :=
  { queue with pending := queue.pending.tail, handled := queue.handled ++ queue.pending.head?.toList }

/-- A context with the messages its worker has handled, and the queue it should be. -/
structure RxRun where
  ctx : FalconPloamCtx
  handled : List PloamMsg
  queue : PloamQueue

def addressedMsgs (assignedOnuId : U8) (arrived : List PloamWords) : List PloamMsg :=
  (arrived.map PloamWords.msg).filter fun msg => msg.Addressed assignedOnuId

/-- A step of the context, and of the queue beside it. -/
def RxRun.step (run : RxRun) (event : PloamEvent) : Option RxRun :=
  match ploamStep run.ctx event with
  | none => none
  | some ctx =>
      match event with
      | .rxIrq arrived => some { run with
          ctx, queue := run.queue.put (addressedMsgs run.ctx.assignedOnuId arrived) }
      | .work => some
          { ctx, handled := run.handled ++ (run.ctx.rxQueue.pop.map Prod.fst).toList,
            queue := run.queue.handle }
      | _ => some { run with ctx }

/-- The ring is the queue: nothing is left unread, the same messages wait and the same
have been handled; and no message for this ONU is missing. -/
@[mk_iff]
structure RxRun.Refines (run : RxRun) : Prop where
  drained : run.ctx.gtc.dsFifo = []
  pending : run.ctx.rxQueue.contents = run.queue.pending
  handled : run.handled = run.queue.handled
  complete : run.handled ++ run.ctx.rxQueue.contents = run.queue.arrived

/-- The interrupt finds what the loop can cope with: only the last message may be filtered
out, what passes the filter is for this ONU, and one slot stays free. -/
@[mk_iff]
structure Fits (ctx : FalconPloamCtx) (arrived : List PloamWords) : Prop where
  unfiltered : ∀ words ∈ arrived.dropLast, words.msg.Passes ctx.assignedOnuId
  addressed : ∀ words ∈ arrived, words.msg.Passes ctx.assignedOnuId →
    words.msg.Addressed ctx.assignedOnuId
  room : ctx.rxQueue.length + (addressedMsgs ctx.assignedOnuId arrived).length < 64

instance (ctx : FalconPloamCtx) (arrived : List PloamWords) : Decidable (Fits ctx arrived) :=
  decidable_of_iff _ (fits_iff ctx arrived).symm

instance (run : RxRun) : Decidable run.Refines :=
  decidable_of_iff _ (RxRun.refines_iff run).symm

def RxRun.Copes (run : RxRun) : PloamEvent → Prop
  | .rxIrq arrived => Fits run.ctx arrived
  | _ => True

instance (run : RxRun) : DecidablePred run.Copes
  | .rxIrq arrived => inferInstanceAs (Decidable (Fits run.ctx arrived))
  | .work => isTrue trivial
  | .to1Expiry => isTrue trivial
  | .to2Expiry => isTrue trivial
  | .los _ => isTrue trivial
  | .lof _ => isTrue trivial

/-! One step. -/

theorem takeWhile_msgs {assignedOnuId : U8} {arrived : List PloamWords}
    (hunfiltered : ∀ words ∈ arrived.dropLast, words.msg.Passes assignedOnuId)
    (haddressed : ∀ words ∈ arrived, words.msg.Passes assignedOnuId →
      words.msg.Addressed assignedOnuId) :
    (arrived.takeWhile fun words => words.msg.Passes assignedOnuId).map PloamWords.msg =
      addressedMsgs assignedOnuId arrived := by
  have hfilter : arrived.takeWhile (fun words => words.msg.Passes assignedOnuId) =
      arrived.filter fun words => words.msg.Passes assignedOnuId :=
    takeWhile_eq_filter_of_dropLast (by simpa using hunfiltered)
  rw [hfilter, addressedMsgs, List.filter_map]
  congr 1
  apply List.filter_congr
  intro words hmem
  simpa using ⟨haddressed words hmem, PloamMsg.Addressed.passes⟩

theorem ploamStep_rxIrq {ctx : FalconPloamCtx} (hdrained : ctx.gtc.dsFifo = [])
    (arrived : List PloamWords) :
    ∃ after, ploamStep ctx (.rxIrq arrived) = some after ∧
      after.gtc.dsFifo =
        (arrived.dropWhile fun words => words.msg.Passes ctx.assignedOnuId).tail ∧
      after.rxQueue = ctx.rxQueue.pushAll
        ((arrived.takeWhile fun words => words.msg.Passes ctx.assignedOnuId).map
          PloamWords.msg) := by
  refine ⟨_, rfl, ?_, ?_⟩
  · simp [FalconPloamCtx.falconPloamRxIrqHandler, rxLoop_eq, hdrained]
  · simp [FalconPloamCtx.falconPloamRxIrqHandler, rxLoop_eq, hdrained]

def FalconPloamCtx.rx (ctx : FalconPloamCtx) : Ring 64 PloamMsg × List PloamWords :=
  (ctx.rxQueue, ctx.gtc.dsFifo)

def FalconPloamCtx.frame (ctx : FalconPloamCtx) :
    Vector U8 8 × Ring 64 PloamMsg × List PloamWords :=
  (ctx.serialNumber, ctx.rx)

section Frame

variable (ctx : FalconPloamCtx)

@[simp]
theorem frame_laserSetEnable (enable : Bool) : (ctx.laserSetEnable enable).frame = ctx.frame := by
  unfold FalconPloamCtx.laserSetEnable
  split <;> rfl

@[simp]
theorem frame_carrierSet (linkUp : Bool) : (ctx.carrierSet linkUp).frame = ctx.frame := by
  unfold FalconPloamCtx.carrierSet
  split <;> rfl

@[simp]
theorem frame_stateChangeCb (newState oldState : PloamState) :
    (ctx.stateChangeCb newState oldState).frame = ctx.frame := by
  unfold FalconPloamCtx.stateChangeCb
  split <;> rfl

@[simp]
theorem frame_setOnuId (onuId : U8) : (ctx.setOnuId onuId).frame = ctx.frame := rfl

@[simp]
theorem frame_enter (newState : PloamState) : (ctx.enter newState).frame = ctx.frame := by
  cases newState with
  | o1InitialRun => simp [FalconPloamCtx.enter]
  | o2Standby => simp [FalconPloamCtx.enter]
  | o3SerialNum => exact frame_laserSetEnable ctx true
  | o4Ranging => rfl
  | o5Operation => exact frame_carrierSet _ true
  | o6Popup => exact frame_laserSetEnable ctx false
  | o7Emergency => simp [FalconPloamCtx.enter]

@[simp]
theorem frame_ploamStateTransition (newState : PloamState) :
    (ctx.ploamStateTransition newState).frame = ctx.frame := by
  unfold FalconPloamCtx.ploamStateTransition
  split
  · rfl
  · rw [frame_enter, frame_stateChangeCb]
    rfl

/-- The handling of a message touches neither. -/
theorem frame_handleMsg (msg : PloamMsg) : (ctx.handleMsg msg).frame = ctx.frame := by
  unfold FalconPloamCtx.handleMsg
  split
  · unfold FalconPloamCtx.upstreamOverhead
    dsimp only
    split
    · exact frame_ploamStateTransition _ _
    · rfl
  · split
    · unfold FalconPloamCtx.assignOnuId
      split
      · exact frame_ploamStateTransition _ _
      · rfl
    · split
      · unfold FalconPloamCtx.rangingTime
        dsimp only
        split
        · exact frame_ploamStateTransition _ _
        · rfl
      · split
        · rfl
        · split
          · exact frame_ploamStateTransition _ _
          · split
            · exact frame_ploamStateTransition _ _
            · rfl

end Frame

theorem frame_ploamStep {ctx after : FalconPloamCtx} {event : PloamEvent}
    (h : ploamStep ctx event = some after) (hrxIrq : ∀ arrived, event ≠ .rxIrq arrived)
    (hwork : event ≠ .work) : after.frame = ctx.frame := by
  cases ploamStep_cases h with
  | rxIrq arrived => exact absurd rfl (hrxIrq arrived)
  | work hpop => exact absurd rfl hwork
  | to1Expiry hto1 | to2Expiry hto2 | signal hsignal htarget => exact frame_ploamStateTransition _ _
  | quiet hsignal htarget => rfl

theorem rx_ploamStep {ctx after : FalconPloamCtx} {event : PloamEvent}
    (h : ploamStep ctx event = some after) (hrxIrq : ∀ arrived, event ≠ .rxIrq arrived)
    (hwork : event ≠ .work) : after.rx = ctx.rx :=
  congrArg Prod.snd (frame_ploamStep h hrxIrq hwork)

theorem ploamStep_work {ctx after : FalconPloamCtx} (h : ploamStep ctx .work = some after) :
    ∃ msg rest, ctx.rxQueue.pop = some (msg, rest) ∧ after.rxQueue = rest ∧
      after.gtc.dsFifo = ctx.gtc.dsFifo := by
  cases ploamStep_cases h with
  | @work msg rest hpop =>
      have hrx := congrArg Prod.snd (frame_handleMsg { ctx with rxQueue := rest } msg)
      exact ⟨msg, rest, hpop, congrArg Prod.fst hrx, congrArg Prod.snd hrx⟩
  | signal hsignal htarget => cases hsignal
  | quiet hsignal htarget => cases hsignal

namespace RxRun

/-- An interrupt that the loop can cope with. -/
theorem Refines.rxIrq {run after : RxRun} {arrived : List PloamWords} (hrun : run.Refines)
    (hfits : Fits run.ctx arrived) (h : run.step (.rxIrq arrived) = some after) :
    after.Refines := by
  obtain ⟨ctx, hctx, hfifo, hring⟩ := ploamStep_rxIrq hrun.drained arrived
  rw [step, hctx] at h
  obtain rfl := Option.some.inj h
  rw [takeWhile_msgs hfits.unfiltered hfits.addressed] at hring
  have hcontents := Ring.contents_pushAll _ hfits.room
  rw [← hring] at hcontents
  have htake := (Ring.contents_pushAll_eq_take_iff _ _).mpr hfits.room
  rw [← hring, hrun.pending] at htake
  refine ⟨?_, htake, hrun.handled, ?_⟩
  · rw [hfifo, tail_dropWhile_eq_nil_iff]
    simpa using hfits.unfiltered
  · calc run.handled ++ ctx.rxQueue.contents
        = (run.handled ++ run.ctx.rxQueue.contents) ++ addressedMsgs run.ctx.assignedOnuId arrived := by
          rw [hcontents, List.append_assoc]
      _ = run.queue.arrived ++ addressedMsgs run.ctx.assignedOnuId arrived := by
          rw [hrun.complete]

/-- A round of the worker. -/
theorem Refines.work {run after : RxRun} (hrun : run.Refines)
    (h : run.step .work = some after) : after.Refines := by
  unfold step at h
  split at h
  · cases h
  · rename_i ctx hctx
    obtain rfl := Option.some.inj h
    obtain ⟨msg, rest, hpop, hring, hfifo⟩ := ploamStep_work hctx
    have hcontents := Ring.contents_pop hpop
    have hpending : run.queue.pending = msg :: rest.contents := by
      rw [← hrun.pending, hcontents]
    refine ⟨hfifo.trans hrun.drained, ?_, ?_, ?_⟩
    · simp [hring, PloamQueue.handle, hpending]
    · simp [hpop, PloamQueue.handle, hpending, hrun.handled]
    · have hcomplete := hrun.complete
      rw [hcontents] at hcomplete
      simpa [hpop, hring, PloamQueue.handle] using hcomplete

/-- The other events. -/
theorem Refines.other {run after : RxRun} {event : PloamEvent} (hrun : run.Refines)
    (hrxIrq : ∀ arrived, event ≠ .rxIrq arrived) (hwork : event ≠ .work)
    (h : run.step event = some after) : after.Refines := by
  unfold step at h
  split at h
  · cases h
  · rename_i ctx hctx
    have hrx := rx_ploamStep hctx hrxIrq hwork
    have hring : ctx.rxQueue = run.ctx.rxQueue := congrArg Prod.fst hrx
    have hfifo : ctx.gtc.dsFifo = run.ctx.gtc.dsFifo := congrArg Prod.snd hrx
    have hafter : after = { run with ctx } := by
      cases event with
      | rxIrq arrived => exact absurd rfl (hrxIrq arrived)
      | work => exact absurd rfl hwork
      | to1Expiry | to2Expiry | los los | lof lof => exact (Option.some.inj h).symm
    subst hafter
    exact ⟨hfifo.trans hrun.drained, by rw [hring]; exact hrun.pending, hrun.handled,
      by rw [hring]; exact hrun.complete⟩

end RxRun

/-- The run after `falcon_ploam_init`. -/
def RxRun.start (sn : Option (Vector U8 8)) (pwd : Option (Vector U8 10)) : RxRun where
  ctx := falconPloamInit probedCtx sn pwd
  handled := []
  queue := { pending := [], handled := [], arrived := [] }

/-- In every run whose interrupts the loop can cope with, the worker has handled exactly
the messages for this ONU that a queue would have handed to it, each once and in order,
and those that are left wait in the ring. -/
theorem rxQueue_refines (sn : Option (Vector U8 8)) (pwd : Option (Vector U8 10)) {run : RxRun}
    (hreach : ReachOn RxRun.step RxRun.Copes (RxRun.start sn pwd) run) : run.Refines := by
  refine hreach.invariant ⟨rfl, rfl, rfl, rfl⟩ ?_
  intro before event after hbefore hcopes h
  cases event with
  | rxIrq arrived => exact hbefore.rxIrq hcopes h
  | work => exact hbefore.work h
  | to1Expiry | to2Expiry | los los | lof lof => exact hbefore.other (by simp) (by simp) h

/-- A message with this ONU-ID and message id, its payload the default serial number and
the ONU-ID 1. -/
def sampleMsg (onuId msgId : U8) : PloamWords :=
  PloamMsg.words { onuId, msgId, seqNum := 0, payload := defaultSerialNumber.push 1 }

/-- A filtered message that comes last, and messages handled in between. -/
theorem rxQueue_refines_ranged :
    ∃ run, ReachOn RxRun.step RxRun.Copes (RxRun.start none none) run ∧
      run.queue.handled.length = 3 ∧ run.Refines := by
  have hexec : (execOn RxRun.step RxRun.Copes (RxRun.start none none)
      [.rxIrq [sampleMsg broadcastOnuId dsAssignOnuId], .work,
        .rxIrq [sampleMsg 1 dsRangingTime, sampleMsg broadcastOnuId dsRequestPassword,
          sampleMsg 2 dsDeactivateOnuId], .work, .lof true, .work]).any
      (fun run => decide (run.queue.handled.length = 3)) = true := by
    decide +kernel
  obtain ⟨run, hreach, hhandled⟩ := exists_reachOn_of_execOn hexec
  exact ⟨run, hreach, hhandled, rxQueue_refines none none hreach⟩

/-- Two runs in which a queue of 64 places loses nothing, and the ring does not show what
is in the queue: after 64 messages at once it looks empty, and behind a message for another
ONU the rest is left in the FIFO. -/
theorem rxQueue_not_refines : (∃ run, Reach RxRun.step (RxRun.start none none) run ∧
        run.queue.pending.length = 64 ∧ run.queue.pending = run.queue.arrived ∧
        run.ctx.rxQueue.contents = [] ∧ ¬ run.Refines) ∧
      ∃ run, Reach RxRun.step (RxRun.start none none) run ∧
        run.queue.pending.length = 1 ∧ run.ctx.rxQueue.contents = [] ∧ ¬ run.Refines := by
  constructor
  · have hexec : (execOn RxRun.step (fun _ _ => True) (RxRun.start none none)
        [.rxIrq (List.replicate 64 (sampleMsg broadcastOnuId dsRequestPassword))]).any
        (fun run => decide (run.queue.pending.length = 64 ∧
          run.queue.pending = run.queue.arrived ∧ run.ctx.rxQueue.contents = [] ∧
          ¬ run.Refines)) = true := by
      decide +kernel
    exact exists_reachOn_of_execOn hexec
  · have hexec : (execOn RxRun.step (fun _ _ => True) (RxRun.start none none)
        [.rxIrq [sampleMsg broadcastOnuId dsAssignOnuId], .work,
          .rxIrq [sampleMsg 2 dsRequestPassword, sampleMsg 1 dsRequestPassword]]).any
        (fun run => decide (run.queue.pending.length = 1 ∧
          run.ctx.rxQueue.contents = [] ∧ ¬ run.Refines)) = true := by
      decide +kernel
    exact exists_reachOn_of_execOn hexec

/-! What is handled, whether the loop copes or not. -/

def PloamEvent.msgs : PloamEvent → List PloamMsg
  | .rxIrq arrived => arrived.map PloamWords.msg
  | _ => []

namespace RxRun

/-- The messages handled, those in the ring and those left in the hardware. -/
def seen (run : RxRun) : List PloamMsg :=
  run.handled ++ (run.ctx.rxQueue.contents ++ run.ctx.gtc.dsFifo.map PloamWords.msg)

/-- A step, and all messages that have arrived beside it. -/
def stepArrived (run : RxRun × List PloamMsg) (event : PloamEvent) :
    Option (RxRun × List PloamMsg) :=
  (run.1.step event).map fun after => (after, run.2 ++ event.msgs)

theorem seen_step {run after : RxRun} {event : PloamEvent} (h : run.step event = some after) :
    after.seen.Sublist (run.seen ++ event.msgs) := by
  unfold step at h
  split at h
  · cases h
  · rename_i ctx hctx
    rw [seen, seen, List.append_assoc, List.append_assoc]
    cases event with
    | rxIrq arrived =>
        obtain rfl := Option.some.inj h
        obtain rfl := Option.some.inj hctx
        refine (List.Sublist.refl _).append ?_
        simp only [FalconPloamCtx.falconPloamRxIrqHandler, rxLoop_eq, PloamEvent.msgs]
        refine ((Ring.contents_pushAll_sublist _ _).append_right _).trans ?_
        rw [List.append_assoc, ← List.map_append, ← List.map_append]
        -- What the loop leaves in the hardware comes behind what it puts into the ring.
        refine (List.Sublist.refl _).append (List.Sublist.map _ ?_)
        refine ((List.Sublist.refl _).append (List.tail_sublist _)).trans ?_
        rw [List.takeWhile_append_dropWhile]
    | work =>
        obtain rfl := Option.some.inj h
        obtain ⟨msg, rest, hpop, hring, hfifo⟩ := ploamStep_work hctx
        rw [hpop, hring, hfifo, Ring.contents_pop hpop]
        simp [PloamEvent.msgs]
    | _ =>
        obtain rfl := Option.some.inj h
        obtain ⟨hring, hfifo⟩ := Prod.mk.inj (rx_ploamStep hctx (by simp) (by simp))
        rw [hring, hfifo]
        simp [PloamEvent.msgs]

/-- Whatever arrives, and however full the ring gets, the worker handles messages that have arrived,
in their order and none twice. -/
theorem handled_sublist (sn : Option (Vector U8 8)) (pwd : Option (Vector U8 10))
    (events : List PloamEvent) :
    Along stepArrived (fun _ _ after => after.1.handled.Sublist after.2) (start sn pwd, [])
      events := by
  refine @Along.of_invariant _ _ _ (fun run => run.1.seen.Sublist run.2) _ _ ?_
    (List.Sublist.refl _) events
  intro before event after hbefore hstep
  obtain ⟨run, hrun, rfl⟩ := Option.map_eq_some_iff.mp hstep
  have hafter := (seen_step hrun).trans (hbefore.append_right _)
  exact ⟨(List.sublist_append_left _ _).trans hafter, hafter⟩

end RxRun

end FalconGpon.Ploam
