/-
# Guarded runs of a partial step function

A system is a step function `S → E → Option S`: an event either is not enabled
in a state (`none`) or leads to one next state. Nondeterminism (which thread
moves, which timer fires, what the environment does) is in the choice of the
event. `ReachOn` collects the states reached by runs whose every step meets a
guard on the state before the step and on its event; a run without a guard is
`Reach`. The invariant rules below are the only induction over runs that the
rest of the development performs.
-/

import Mathlib.Logic.Basic

namespace FalconGpon.Lib

variable {S E : Type*}

/-- States reached from `start` by steps that all satisfy `guard`. -/
inductive ReachOn (step : S → E → Option S) (guard : S → E → Prop)
    (start : S) : S → Prop
  | refl : ReachOn step guard start start
  | tail {before after : S} {event : E} :
      ReachOn step guard start before → guard before event →
      step before event = some after → ReachOn step guard start after

/-- States reached from `start` by any steps. -/
abbrev Reach (step : S → E → Option S) (start : S) : S → Prop :=
  ReachOn step (fun _ _ => True) start

namespace ReachOn

variable {step : S → E → Option S} {guard : S → E → Prop} {start : S}

/-- A property of the start that every guarded step keeps holds in every
reached state. -/
theorem invariant {Inv : S → Prop} (hstart : Inv start)
    (hstep : ∀ before event after, Inv before → guard before event →
      step before event = some after → Inv after)
    {state : S} (hreach : ReachOn step guard start state) : Inv state := by
  induction hreach with
  | refl => exact hstart
  | tail _ hguard hnext ih => exact hstep _ _ _ ih hguard hnext

theorem invariant_of {Known Inv : S → Prop}
    (hknown : ∀ state, ReachOn step guard start state → Known state) (hstart : Inv start)
    (hstep : ∀ before event after, Known before → Inv before →
      guard before event → step before event = some after → Inv after)
    {state : S} (hreach : ReachOn step guard start state) : Inv state := by
  induction hreach with
  | refl => exact hstart
  | tail hbefore hguard hnext ih =>
      exact hstep _ _ _ (hknown _ hbefore) ih hguard hnext

theorem mono {weaker : S → E → Prop}
    (hweaker : ∀ state event, guard state event → weaker state event)
    {state : S} (hreach : ReachOn step guard start state) : ReachOn step weaker start state := by
  induction hreach with
  | refl => exact refl
  | tail _ hguard hnext ih => exact tail ih (hweaker _ _ hguard) hnext

theorem toReach {state : S} (hreach : ReachOn step guard start state) : Reach step start state :=
  hreach.mono fun _ _ _ => trivial

end ReachOn

/-- Execute a list of events, stopping where a step is not enabled or its
guard fails. -/
def execOn (step : S → E → Option S) (guard : S → E → Prop)
    [∀ state event, Decidable (guard state event)] : S → List E → Option S
  | state, [] => some state
  | state, event :: events =>
      if guard state event then
        match step state event with
        | some next => execOn step guard next events
        | none => none
      else none

variable {step : S → E → Option S} {Inv : S → Prop} {P : S → E → S → Prop} {guard : S → E → Prop}
  {start : S} {events : List E}

/-- What the executable run reaches is reached by a guarded run. -/
theorem reachOn_of_execOn [∀ state event, Decidable (guard state event)] {start middle state : S}
    (hmiddle : ReachOn step guard start middle)
    (hexec : execOn step guard middle events = some state) : ReachOn step guard start state := by
  induction events generalizing middle with
  | nil =>
      have hstate : middle = state := by simpa [execOn] using hexec
      exact hstate ▸ hmiddle
  | cons event events ih =>
      rw [execOn] at hexec
      by_cases hguard : guard middle event
      · rw [if_pos hguard] at hexec
        cases hnext : step middle event with
        | none => simp [hnext] at hexec
        | some next =>
            rw [hnext] at hexec
            exact ih (hmiddle.tail hguard hnext) hexec
      · simp [hguard] at hexec

/-- A test that the executable run ends with is a property of a reached
state. -/
theorem exists_reachOn_of_execOn [∀ state event, Decidable (guard state event)] {P : S → Prop}
    [DecidablePred P]
    (htest : (execOn step guard start events).any (fun state => decide (P state)) = true) :
    ∃ state, ReachOn step guard start state ∧ P state := by
  cases hexec : execOn step guard start events with
  | none => simp [hexec] at htest
  | some state =>
      have hstate : P state := by simpa [hexec] using htest
      exact ⟨state, reachOn_of_execOn .refl hexec, hstate⟩

/-- Every step of a run has a property; the run ends where a step is not enabled. -/
def Along (step : S → E → Option S) (P : S → E → S → Prop) : S → List E → Prop
  | _, [] => True
  | before, event :: events =>
      match step before event with
      | some after => P before event after ∧ Along step P after events
      | none => True

instance Along.decidable {step : S → E → Option S} {P : S → E → S → Prop}
    [∀ before event after, Decidable (P before event after)] :
    ∀ start events, Decidable (Along step P start events)
  | _, [] => isTrue trivial
  | start, event :: events =>
      match hnext : step start event with
      | some after =>
          have : Decidable (Along step P after events) := Along.decidable after events
          decidable_of_iff (P start event after ∧ Along step P after events)
            (by rw [Along, hnext])
      | none => isTrue (by rw [Along, hnext]; trivial)

theorem Along.mono {P Q : S → E → S → Prop} (hrun : Along step P start events)
    (himp : ∀ before event after, P before event after → Q before event after) :
    Along step Q start events := by
  induction events generalizing start with
  | nil => exact trivial
  | cons event events ih =>
      rw [Along] at hrun ⊢
      cases hnext : step start event with
      | none => exact trivial
      | some after =>
          rw [hnext] at hrun
          exact ⟨himp start event after hrun.1, ih hrun.2⟩

/-- The property of the step that comes after the first steps of a run. -/
theorem Along.of_execOn {start before after : S} {event : E} {rest : List E}
    (hrun : Along step P start (events ++ event :: rest))
    (hexec : execOn step (fun _ _ => True) start events = some before)
    (hstep : step before event = some after) : P before event after := by
  induction events generalizing start with
  | nil =>
      cases hexec
      rw [List.nil_append, Along, hstep] at hrun
      exact hrun.1
  | cons first events ih =>
      rw [execOn, if_pos trivial] at hexec
      rw [List.cons_append, Along] at hrun
      cases hnext : step start first with
      | none => simp [hnext] at hexec
      | some next =>
          rw [hnext] at hrun hexec
          exact ih hrun.2 hexec

theorem Along.of_append {events more : List E} (hrun : Along step P start (events ++ more)) :
    Along step P start events := by
  induction events generalizing start with
  | nil => exact trivial
  | cons event events ih =>
      rw [List.cons_append, Along] at hrun
      rw [Along]
      cases hnext : step start event with
      | none => exact trivial
      | some after =>
          rw [hnext] at hrun
          exact ⟨hrun.1, ih hrun.2⟩

/-- A run goes on from the state it has reached. -/
theorem Along.append {events more : List E} (hrun : Along step P start events)
    (hmore : ∀ state, execOn step (fun _ _ => True) start events = some state →
      Along step P state more) : Along step P start (events ++ more) := by
  induction events generalizing start with
  | nil => exact hmore start rfl
  | cons event events ih =>
      rw [Along] at hrun
      rw [List.cons_append, Along]
      cases hnext : step start event with
      | none => exact trivial
      | some after =>
          rw [hnext] at hrun
          refine ⟨hrun.1, ih hrun.2 fun state hexec => hmore state ?_⟩
          rw [execOn, if_pos trivial, hnext]
          exact hexec

/-- If a step with an allowed event from a state with `Inv` has a property exactly under `guard`,
and leads to such a state then, all steps of a run of allowed events have the property exactly
when they all meet `guard`. -/
theorem along_iff_guard_on {Allowed : E → Prop}
    (hstep : ∀ before event after, Allowed event → Inv before → step before event = some after →
      (P before event after ↔ guard before event) ∧ (guard before event → Inv after))
    {start : S} (hstart : Inv start) {events : List E} (hevents : ∀ event ∈ events, Allowed event) :
    Along step P start events ↔
      Along step (fun before event _ => guard before event) start events := by
  induction events generalizing start with
  | nil => exact Iff.rfl
  | cons event events ih =>
      have hrest : ∀ other ∈ events, Allowed other :=
        fun other hother => hevents other (List.mem_cons_of_mem _ hother)
      rw [Along, Along]
      cases hnext : step start event with
      | none => exact Iff.rfl
      | some after =>
          obtain ⟨hiff, hafter⟩ :=
            hstep start event after (hevents event List.mem_cons_self) hstart hnext
          constructor
          · rintro ⟨hkept, hmore⟩
            have hguard := hiff.mp hkept
            exact ⟨hguard, (ih (hafter hguard) hrest).mp hmore⟩
          · rintro ⟨hguard, hmore⟩
            exact ⟨hiff.mpr hguard, (ih (hafter hguard) hrest).mpr hmore⟩

/-- If a step from a state with `Inv` has a property exactly under `guard`, and leads to such a
state then, all steps of a run have the property exactly when they all meet `guard`. -/
theorem along_iff_guard (hstep : ∀ before event after, Inv before → step before event = some after →
      (P before event after ↔ guard before event) ∧ (guard before event → Inv after))
    {start : S} (hstart : Inv start) (events : List E) :
    Along step P start events ↔
      Along step (fun before event _ => guard before event) start events :=
  along_iff_guard_on (fun before event after (_ : True) => hstep before event after) hstart
    fun _ _ => trivial

theorem along_and {P Q : S → E → S → Prop} :
    Along step (fun before event after => P before event after ∧ Q before event after) start
        events ↔ Along step P start events ∧ Along step Q start events := by
  induction events generalizing start with
  | nil => exact Iff.symm (and_self_iff)
  | cons event events ih =>
      rw [Along, Along, Along]
      cases step start event with
      | none => exact Iff.symm (and_self_iff)
      | some after => exact (and_congr_right fun _ => ih).trans and_and_and_comm

/-- If a guarded step from a state with `Inv` has a property and leads to such a state, all steps
of a guarded run have the property. -/
theorem Along.of_guard (hstep : ∀ before event after, Inv before → guard before event →
      step before event = some after → P before event after ∧ Inv after) (hstart : Inv start)
    (hguard : Along step (fun before event _ => guard before event) start events) :
    Along step P start events := by
  induction events generalizing start with
  | nil => exact trivial
  | cons event events ih =>
      rw [Along] at hguard ⊢
      cases hnext : step start event with
      | none => exact trivial
      | some after =>
          rw [hnext] at hguard
          obtain ⟨hkept, hafter⟩ := hstep start event after hstart hguard.1 hnext
          exact ⟨hkept, ih hafter hguard.2⟩

/-- A guarded run from a state with `Inv` leads to such a state. -/
theorem Along.inv_of_execOn (hstep : ∀ before event after, Inv before → guard before event →
      step before event = some after → Inv after) {start state : S} (hstart : Inv start)
    (hguard : Along step (fun before event _ => guard before event) start events)
    (hexec : execOn step (fun _ _ => True) start events = some state) : Inv state := by
  induction events generalizing start with
  | nil => exact Option.some.inj hexec ▸ hstart
  | cons event events ih =>
      rw [execOn, if_pos trivial] at hexec
      rw [Along] at hguard
      cases hnext : step start event with
      | none => simp [hnext] at hexec
      | some next =>
          rw [hnext] at hguard hexec
          exact ih (hstep start event next hstart hguard.1 hnext) hguard.2 hexec

/-- If every step from a state with `Inv` has a property and leads to such a state, all steps of
every run have the property. -/
theorem Along.of_invariant
    (hstep : ∀ before event after, Inv before → step before event = some after →
      P before event after ∧ Inv after) (hstart : Inv start)
    (events : List E) : Along step P start events := by
  induction events generalizing start with
  | nil => exact trivial
  | cons event events ih =>
      rw [Along]
      cases hnext : step start event with
      | none => exact trivial
      | some after =>
          obtain ⟨hkept, hafter⟩ := hstep start event after hstart hnext
          exact ⟨hkept, ih hafter⟩

/-- If a step from a state with `Inv` leads to such a state exactly under `guard`, a run
stays in `Inv` exactly when all its steps meet `guard`. -/
theorem along_inv_iff (hstep : ∀ before event after, Inv before → step before event = some after →
      (Inv after ↔ guard before event)) {start : S} (hstart : Inv start) (events : List E) :
    Along step (fun _ _ after => Inv after) start events ↔
      Along step (fun before event _ => guard before event) start events := by
  refine along_iff_guard (fun before event after hbefore hnext => ?_) hstart events
  have hiff := hstep before event after hbefore hnext
  exact ⟨hiff, hiff.mpr⟩

/-- Two properties of steps that agree on the states of an invariant agree on runs. -/
theorem along_congr {P Q : S → E → S → Prop}
    (hinv : ∀ before event after, Inv before → step before event = some after → Inv after)
    (hiff : ∀ before event after, Inv before → step before event = some after →
      (P before event after ↔ Q before event after))
    {start : S} (hstart : Inv start) (events : List E) :
    Along step P start events ↔ Along step Q start events := by
  induction events generalizing start with
  | nil => exact Iff.rfl
  | cons event events ih =>
      rw [Along, Along]
      cases hnext : step start event with
      | none => exact Iff.rfl
      | some after =>
          exact and_congr (hiff start event after hstart hnext)
            (ih (hinv start event after hstart hnext))

end FalconGpon.Lib
