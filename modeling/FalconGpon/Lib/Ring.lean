/-
# Ring buffers with two indices

A ring of `size` slots has an index to write at and one to read from, and nothing else:
it is empty when the two are equal. What it holds is what stands from the read index up
to the write index (`Ring.contents`). Up to `size - 1` entries it is a first-in
first-out queue; the next one brings the write index round to the read index, and the
ring shows nothing at all (`Ring.contents_push_full`). `Ring.contents_pushAll_eq_take_iff`
says that it keeps what a queue of `size` places would keep exactly as long as that does
not happen. A writer that looks at the read index first and moves it on makes the ring a queue
that drops its oldest entry (`Ring.contents_pushDrop`).
-/

import FalconGpon.Lib.Literals
import Mathlib.Data.Nat.ModEq
import Mathlib.Data.Fin.Basic
import Mathlib.Data.List.DropRight
import Mathlib.Logic.Function.Basic

namespace FalconGpon.Lib

variable {size : Nat} {α : Type*}

/-- Slots with the next index to write and the next one to read. -/
structure Ring (size : Nat) (α : Type*) where
  slots : Fin size → α
  head : Fin size
  tail : Fin size

namespace Ring

def length (ring : Ring size α) : Nat := (ring.head - ring.tail).val

theorem length_lt (ring : Ring size α) : ring.length < size := (ring.head - ring.tail).isLt

variable [NeZero size]

/-- The entries of `count` slots from `index` on. -/
def readFrom (slots : Fin size → α) (index : Fin size) : Nat → List α
  | 0 => []
  | count + 1 => slots index :: readFrom slots (index + 1) count

def contents (ring : Ring size α) : List α := readFrom ring.slots ring.tail ring.length

def push (ring : Ring size α) (entry : α) : Ring size α :=
  { ring with slots := Function.update ring.slots ring.head entry, head := ring.head + 1 }

def pop (ring : Ring size α) : Option (α × Ring size α) :=
  if ring.head = ring.tail then none
  else some (ring.slots ring.tail, { ring with tail := ring.tail + 1 })

def pushAll (ring : Ring size α) : List α → Ring size α
  | [] => ring
  | entry :: entries => (ring.push entry).pushAll entries

/-! The indices. -/

/-- The index `offset` places behind `index`. -/
def shift (index : Fin size) (offset : Nat) : Fin size := index + Fin.ofNat size offset

@[simp]
theorem shift_zero (index : Fin size) : shift index 0 = index := by
  ext
  simp [shift]

theorem shift_succ (index : Fin size) (offset : Nat) :
    shift (index + 1) offset = shift index (offset + 1) := by
  ext
  simp only [shift, Fin.val_add, Fin.val_one', Fin.val_ofNat, Nat.add_mod_mod, Nat.mod_add_mod]
  congr 1
  omega

/-- Fewer than `size` places apart, two indices differ. -/
theorem shift_inj {index : Fin size} {first second : Nat} (hfirst : first < size)
    (hsecond : second < size) (heq : shift index first = shift index second) : first = second := by
  have hmod : index.val + first ≡ index.val + second [MOD size] := by
    have hval := congrArg Fin.val heq
    simp only [shift, Fin.val_add, Fin.val_ofNat, Nat.add_mod_mod] at hval
    exact hval
  have hcancel := Nat.ModEq.add_left_cancel' _ hmod
  calc first = first % size := (Nat.mod_eq_of_lt hfirst).symm
    _ = second % size := hcancel
    _ = second := Nat.mod_eq_of_lt hsecond

theorem shift_tail_length (ring : Ring size α) : shift ring.tail ring.length = ring.head := by
  ext
  have htail := ring.tail.isLt
  have hhead := ring.head.isLt
  simp only [shift, length, Fin.val_add, Fin.sub_def, Fin.val_ofNat, Nat.mod_mod,
    Nat.add_mod_mod]
  rw [← Nat.add_assoc, Nat.add_sub_cancel' (Nat.le_of_lt htail), Nat.add_mod_left,
    Nat.mod_eq_of_lt hhead]

theorem length_eq_zero (ring : Ring size α) : ring.length = 0 ↔ ring.head = ring.tail := by
  constructor
  · intro hzero
    have hshift := ring.shift_tail_length
    rw [hzero, shift_zero] at hshift
    exact hshift.symm
  · intro heq
    simp [length, heq]

theorem length_push (ring : Ring size α) (entry : α) :
    (ring.push entry).length = (ring.length + 1) % size := by
  simp only [length, push, Fin.sub_def, Fin.val_add, Fin.val_one', Nat.add_mod_mod,
    Nat.mod_add_mod]
  rw [Nat.add_assoc]

/-! The contents. -/

theorem length_readFrom (slots : Fin size → α) (index : Fin size) (count : Nat) :
    (readFrom slots index count).length = count := by
  induction count generalizing index with
  | zero => rfl
  | succ count ih => rw [readFrom, List.length_cons, ih]

@[simp]
theorem length_contents (ring : Ring size α) : ring.contents.length = ring.length :=
  length_readFrom _ _ _

theorem readFrom_succ (slots : Fin size → α) (index : Fin size) (count : Nat) :
    readFrom slots index (count + 1) =
      readFrom slots index count ++ [slots (shift index count)] := by
  induction count generalizing index with
  | zero => simp [readFrom]
  | succ count ih =>
      calc readFrom slots index (count + 1 + 1)
          = slots index :: readFrom slots (index + 1) (count + 1) := rfl
        _ = slots index ::
              (readFrom slots (index + 1) count ++ [slots (shift (index + 1) count)]) := by
            rw [ih]
        _ = readFrom slots index (count + 1) ++ [slots (shift index (count + 1))] := by
            rw [shift_succ]
            rfl

theorem readFrom_update {slots : Fin size → α} {index at_ : Fin size} {count : Nat} {entry : α}
    (hother : ∀ offset, offset < count → shift index offset ≠ at_) :
    readFrom (Function.update slots at_ entry) index count = readFrom slots index count := by
  induction count with
  | zero => rfl
  | succ count ih =>
      have hlast := hother count (Nat.lt_succ_self count)
      rw [readFrom_succ, readFrom_succ, ih fun offset hlt => hother offset (by omega),
        Function.update_of_ne hlast]

/-- While there is room a write appends its entry. -/
theorem contents_push {ring : Ring size α} (entry : α) (hroom : ring.length + 1 < size) :
    (ring.push entry).contents = ring.contents ++ [entry] := by
  have hlength : (ring.push entry).length = ring.length + 1 := by
    rw [length_push, Nat.mod_eq_of_lt hroom]
  have hother : ∀ offset, offset < ring.length → shift ring.tail offset ≠ ring.head := by
    intro offset hlt heq
    rw [← ring.shift_tail_length] at heq
    have := shift_inj (by omega) (by omega) heq
    omega
  calc (ring.push entry).contents
      = readFrom (Function.update ring.slots ring.head entry) ring.tail (ring.length + 1) := by
        rw [contents, hlength]
        rfl
    _ = readFrom ring.slots ring.tail ring.length ++ [entry] := by
        rw [readFrom_succ, readFrom_update hother, shift_tail_length, Function.update_self]
    _ = ring.contents ++ [entry] := rfl

theorem contents_pushAll {ring : Ring size α} (entries : List α)
    (hroom : ring.length + entries.length < size) :
    (ring.pushAll entries).contents = ring.contents ++ entries := by
  induction entries generalizing ring with
  | nil => simp [pushAll]
  | cons entry entries ih =>
      rw [List.length_cons] at hroom
      have hlength : (ring.push entry).length = ring.length + 1 := by
        rw [length_push, Nat.mod_eq_of_lt (by omega)]
      rw [pushAll, ih (by omega), contents_push entry (by omega), List.append_assoc,
        List.singleton_append]

/-- The ring keeps what a queue of `size` places keeps exactly while its indices do not
come round. -/
theorem contents_pushAll_eq_take_iff (ring : Ring size α) (entries : List α) :
    (ring.pushAll entries).contents = (ring.contents ++ entries).take size ↔
      ring.length + entries.length < size := by
  constructor
  · intro heq
    have hlengths := congrArg List.length heq
    have hlt := (ring.pushAll entries).length_lt
    rw [length_contents, List.length_take, List.length_append, length_contents] at hlengths
    omega
  · intro hroom
    rw [contents_pushAll entries hroom, List.take_of_length_le]
    rw [List.length_append, length_contents]
    omega

/-- The last entry that there is a slot for makes the ring look empty. -/
theorem contents_push_full {ring : Ring size α} (entry : α) (hfull : ring.length + 1 = size) :
    (ring.push entry).contents = [] := by
  rw [contents, length_push, hfull, Nat.mod_self]
  rfl

/-- Whatever is pushed, a ring holds some of what it held and of the new entries, in order. -/
theorem contents_pushAll_sublist (ring : Ring size α) (entries : List α) :
    (ring.pushAll entries).contents.Sublist (ring.contents ++ entries) := by
  induction entries generalizing ring with
  | nil => exact List.sublist_append_left _ _
  | cons entry entries ih =>
      have hpush : (ring.push entry).contents.Sublist (ring.contents ++ [entry]) := by
        rcases Nat.lt_or_eq_of_le (Nat.succ_le_of_lt ring.length_lt) with hroom | hfull
        · rw [contents_push entry hroom]
        · rw [contents_push_full entry hfull]
          exact List.nil_sublist _
      rw [List.append_cons]
      exact (ih _).trans (hpush.append_right entries)

/-- Reading takes the oldest entry off. -/
theorem contents_pop {ring rest : Ring size α} {entry : α} (hpop : ring.pop = some (entry, rest)) :
    ring.contents = entry :: rest.contents := by
  by_cases hempty : ring.head = ring.tail
  · simp [pop, hempty] at hpop
  · rw [pop, if_neg hempty, Option.some.injEq, Prod.mk.injEq] at hpop
    obtain ⟨rfl, rfl⟩ := hpop
    obtain ⟨count, hcount⟩ : ∃ count, ring.length = count + 1 :=
      Nat.exists_eq_succ_of_ne_zero fun hzero => hempty (ring.length_eq_zero.mp hzero)
    have hshift : shift (ring.tail + 1) count = ring.head := by
      rw [shift_succ, ← hcount, shift_tail_length]
    have hrest : ({ ring with tail := ring.tail + 1 } : Ring size α).length = count := by
      have hlt := ring.length_lt
      apply @shift_inj _ _ (ring.tail + 1) _ _ (Fin.isLt _) (by omega)
      rw [hshift]
      exact shift_tail_length { ring with tail := ring.tail + 1 }
    rw [contents, contents, hcount, hrest]
    rfl

theorem pop_eq_none_iff (ring : Ring size α) : ring.pop = none ↔ ring.contents = [] := by
  rw [← List.length_eq_zero_iff, length_contents, length_eq_zero]
  by_cases hempty : ring.head = ring.tail <;> simp [pop, hempty]

/-! Dropping the oldest entry. -/

def pushDrop (ring : Ring size α) (entry : α) : Ring size α :=
  if ring.head + 1 = ring.tail then { ring with tail := ring.tail + 1 }.push entry
  else ring.push entry

theorem head_add_one_eq_tail_iff (ring : Ring size α) :
    ring.head + 1 = ring.tail ↔ ring.length + 1 = size := by
  have hzero := (ring.push (ring.slots ring.head)).length_eq_zero
  have hlt := ring.length_lt
  rw [length_push] at hzero
  constructor
  · intro heq
    have hmod := hzero.mpr heq
    by_contra hne
    rw [Nat.mod_eq_of_lt (by omega)] at hmod
    omega
  · intro hfull
    exact hzero.mp (by rw [hfull, Nat.mod_self])

/-- Such a write appends its entry, and drops the oldest one where there is no room. -/
theorem contents_pushDrop (ring : Ring size α) (entry : α) :
    (ring.pushDrop entry).contents = (ring.contents ++ [entry]).rtake (size - 1) := by
  have hlt := ring.length_lt
  by_cases hfull : ring.head + 1 = ring.tail
  · have hlast := ring.head_add_one_eq_tail_iff.mp hfull
    rw [pushDrop, if_pos hfull]
    cases hpop : ring.pop with
    | none =>
        -- there is one slot only
        have hnil := ring.pop_eq_none_iff.mp hpop
        have hzero : ring.length = 0 := by rw [← length_contents, hnil, List.length_nil]
        have hsize : size - 1 = 0 := by omega
        rw [hsize, List.rtake_zero, ← List.length_eq_zero_iff, length_contents]
        have hshort := ({ ring with tail := ring.tail + 1 }.push entry).length_lt
        omega
    | some next =>
        obtain ⟨oldest, rest⟩ := next
        have hcontents := contents_pop hpop
        have hrest : rest = { ring with tail := ring.tail + 1 } := by
          by_cases hempty : ring.head = ring.tail
          · simp [pop, hempty] at hpop
          · rw [pop, if_neg hempty, Option.some.injEq, Prod.mk.injEq] at hpop
            exact hpop.2.symm
        have hlength : rest.length + 1 = ring.length := by
          rw [← length_contents, ← length_contents, hcontents, List.length_cons]
        have hdrop : (oldest :: rest.contents ++ [entry]).length - (size - 1) = 1 := by
          rw [List.length_append, List.length_cons, List.length_singleton, length_contents]
          omega
        rw [← hrest, contents_push entry (by omega), hcontents, List.rtake, hdrop]
        rfl
  · have hroom : ring.length + 1 < size := by
      have hnot := mt ring.head_add_one_eq_tail_iff.mpr hfull
      omega
    have hall : (ring.contents ++ [entry]).length - (size - 1) = 0 := by
      rw [List.length_append, List.length_singleton, length_contents]
      omega
    rw [pushDrop, if_neg hfull, contents_push entry hroom, List.rtake, hall, List.drop_zero]

end Ring

/-! ## Queues that drop their oldest entry -/

/-- A queue of `cap` places that drops its oldest entry, with all entries that were put in and
those that were taken out. -/
structure DropQueue (cap : Nat) (α : Type*) where
  queue : List α
  pushed : List α
  popped : List α

namespace DropQueue

variable {cap : Nat}

def empty : DropQueue cap α := ⟨[], [], []⟩

/-- Put an entry in. -/
def push (q : DropQueue cap α) (entry : α) : DropQueue cap α where
  queue := (q.queue ++ [entry]).rtake cap
  pushed := q.pushed ++ [entry]
  popped := q.popped

/-- Take the oldest entry out. -/
def pop (q : DropQueue cap α) : DropQueue cap α :=
  match q.queue with
  | [] => q
  | entry :: rest => { q with queue := rest, popped := q.popped ++ [entry] }

/-- What has been taken out and what is left came in this order; the queue keeps the entries that
were put in last, as many as it has places for or all since the last one taken out. -/
structure Fifo (q : DropQueue cap α) : Prop where
  order : (q.popped ++ q.queue).Sublist q.pushed
  latest : q.queue <:+ q.pushed
  room : q.queue.length ≤ cap

theorem fifo_empty : (empty : DropQueue cap α).Fifo :=
  ⟨List.Sublist.refl _, List.suffix_refl _, Nat.zero_le _⟩

theorem Fifo.push {q : DropQueue cap α} (h : q.Fifo) (entry : α) : (q.push entry).Fifo := by
  have hsuffix : (q.queue ++ [entry]).rtake cap <:+ q.queue ++ [entry] := List.drop_suffix _ _
  constructor
  case order =>
      have hmore : (q.popped ++ q.queue ++ [entry]).Sublist (q.pushed ++ [entry]) :=
        h.order.append_right [entry]
      rw [List.append_assoc] at hmore
      exact ((List.Sublist.refl q.popped).append hsuffix.sublist).trans hmore
  case latest =>
      obtain ⟨before, hbefore⟩ := h.latest
      refine hsuffix.trans ⟨before, ?_⟩
      rw [← List.append_assoc, hbefore]
      rfl
  case room =>
      rw [DropQueue.push, List.rtake, List.length_drop]
      omega

theorem Fifo.pop {q : DropQueue cap α} (h : q.Fifo) : q.pop.Fifo := by
  rw [DropQueue.pop]
  cases hqueue : q.queue with
  | nil => exact h
  | cons entry rest =>
      have horder := h.order
      have hlatest := h.latest
      have hroom := h.room
      rw [hqueue] at horder hlatest hroom
      constructor
      case order =>
          rw [List.append_assoc]
          exact horder
      case latest => exact (List.suffix_cons entry rest).trans hlatest
      case room => exact (Nat.le_succ _).trans hroom

end DropQueue

end FalconGpon.Lib
