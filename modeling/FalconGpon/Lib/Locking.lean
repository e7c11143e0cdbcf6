/-
# Locks taken and released by hand

A thread works on some data and takes and releases locks by hand. A lock is not recursive: who
asks for one it holds waits for itself, and the run does not return. `Ends` says that a run asks
for no lock it holds and, if it returns, holds a given set of locks then. Each way to build a
program has one lemma that moves `Ends` over it, so the locks of a function are found by going
along its text; `Kept` is the case that matters, the locks held at the entry.
-/

import Mathlib.Logic.Function.Basic
import FalconGpon.Lib.Program

namespace FalconGpon.Lib

/-- The data a thread works on, and its locks. -/
structure Locking (L D : Type) where
  data : D
  held : L → Bool
  /-- It has asked for a lock it held. -/
  misused : Bool

namespace Locking

open Program

variable {L D α β : Type}

def withData (t : Locking L D) (d : D) : Locking L D :=
  { t with data := d }

def perform (x : D → α × D) : Program (Locking L D) α :=
  fun t => (some (x t.data).1, t.withData (x t.data).2)

def Ends (x : Program (Locking L D) α) (t : Locking L D) (held : L → Bool) : Prop :=
  (x t).2.misused = false ∧ ((x t).1.isSome → (x t).2.held = held)

def Kept (x : Program (Locking L D) α) (t : Locking L D) : Prop :=
  Ends x t t.held

variable {t : Locking L D} {held : L → Bool} {x : Program (Locking L D) α}
variable {f : α → Program (Locking L D) β}

theorem ends_pure (a : α) :
    Ends (pure a : Program (Locking L D) α) t held ↔ t.misused = false ∧ t.held = held :=
  and_congr_right fun _ => ⟨fun h => h rfl, fun h _ => h⟩

theorem ends_fail : Ends (fail : Program (Locking L D) α) t held ↔ t.misused = false :=
  and_iff_left nofun

theorem ends_bind {a : α} {t' : Locking L D} (hx : x t = (some a, t')) :
    Ends (x >>= f) t held ↔ Ends (f a) t' held := by
  rw [Ends, Ends, Program.bind_apply hx]

theorem ends_bind_none {t' : Locking L D} (hx : x t = (none, t')) :
    Ends (x >>= f) t held ↔ t'.misused = false := by
  rw [Ends, Program.bind_apply_none hx]
  exact and_iff_left nofun

theorem ends_perform {x : D → α × D} :
    Ends (perform x >>= f) t held ↔ Ends (f (x t.data).1) (t.withData (x t.data).2) held :=
  Iff.rfl

theorem ends_discard {b : β} : Ends (x >>= fun _ => pure b) t held ↔ Ends x t held := by
  cases hx : x t with
  | mk result t' =>
      cases result with
      | none =>
          rw [ends_bind_none hx, Ends, hx]
          exact (and_iff_left nofun).symm
      | some a =>
          rw [ends_bind hx, ends_pure, Ends, hx]
          exact and_congr_right fun _ => ⟨fun h _ => h, fun h => h rfl⟩

variable [DecidableEq L] {l : L}

def take (t : Locking L D) (l : L) : Locking L D :=
  { t with held := Function.update t.held l true }

def drop (t : Locking L D) (l : L) : Locking L D :=
  { t with held := Function.update t.held l false }

def lockGet (l : L) : Program (Locking L D) Unit :=
  fun t => if t.held l then (none, { t with misused := true }) else (some (), t.take l)

def lockRelease (l : L) : Program (Locking L D) Unit :=
  fun t => (some (), t.drop l)

theorem update_update_free (h : held l = false) :
    Function.update (Function.update held l true) l false = held := by
  rw [Function.update_idem, ← h]
  exact Function.update_eq_self l held

theorem update_true_ne (h : held l = false) : Function.update held l true ≠ held := by
  intro hsame
  have hl := congrFun hsame l
  rw [Function.update_self, h] at hl
  exact Bool.false_ne_true hl.symm

theorem lockGet_apply (hfree : t.held l = false) : lockGet l t = (some (), t.take l) := by
  rw [lockGet, hfree]
  rfl

theorem lockGet_apply_held (hheld : t.held l = true) :
    lockGet l t = (none, { t with misused := true }) := by
  rw [lockGet, hheld]
  rfl

theorem ends_lockGet {f : Unit → Program (Locking L D) β} :
    Ends (lockGet l >>= f) t held ↔ t.held l = false ∧ Ends (f ()) (t.take l) held := by
  cases hheld : t.held l with
  | true =>
      rw [ends_bind_none (lockGet_apply_held hheld)]
      exact ⟨nofun, fun h => nomatch h.1⟩
  | false =>
      rw [ends_bind (lockGet_apply hheld)]
      exact (and_iff_right rfl).symm

theorem ends_lockGet_free {f : Unit → Program (Locking L D) β} (hfree : t.held l = false) :
    Ends (lockGet l >>= f) t held ↔ Ends (f ()) (t.take l) held :=
  ends_lockGet.trans (and_iff_right hfree)

theorem ends_lockRelease {f : Unit → Program (Locking L D) β} :
    Ends (lockRelease l >>= f) t held ↔ Ends (f ()) (t.drop l) held :=
  Iff.rfl

theorem ends_released (hmisused : t.misused = false) (hfree : t.held l = false) (d : D) (a : α) :
    Ends (pure a : Program (Locking L D) α) (((t.take l).withData d).drop l) t.held :=
  (ends_pure a).mpr ⟨hmisused, update_update_free hfree⟩

theorem not_ends_taken (hfree : t.held l = false) (d : D) (a : α) :
    ¬Ends (pure a : Program (Locking L D) α) ((t.take l).withData d) t.held :=
  fun h => update_true_ne hfree ((ends_pure a).mp h).2

/-! ## Work under one lock -/

/-- Take a lock, work on the data, and release it. -/
def locked (l : L) (x : D → α × D) : Program (Locking L D) α := do
  lockGet l
  let a ← perform x
  lockRelease l
  return a

theorem locked_apply {x : D → α × D} (hfree : t.held l = false) :
    locked l x t = (some (x t.data).1, t.withData (x t.data).2) := by
  rw [locked, Program.bind_apply (lockGet_apply hfree)]
  exact congrArg (Prod.mk _) (congrArg (Locking.mk _ · _) (update_update_free hfree))

theorem ends_locked {x : D → α × D} (hfree : t.held l = false) :
    Ends (locked l x >>= f) t held ↔ Ends (f (x t.data).1) (t.withData (x t.data).2) held :=
  ends_bind (locked_apply hfree)

end Locking

end FalconGpon.Lib
